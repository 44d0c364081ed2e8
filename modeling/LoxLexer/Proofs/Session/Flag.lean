/-
# What the error flag is about

A session is flagged while it has diagnostics. The flag should be about the unit of
input that was treated last: a file, or a line of the prompt. It is, if that unit was
scanned, whatever the session went through before. But a file that cannot be read and
a line that asks for help are not scanned and leave the flag as they find it, so there
it is still about some earlier unit.
-/

import LoxLexer.Proofs.Session.Independence

namespace LoxLexer.Session

open Procedure

/-- A text to be scanned, with the name of the file it comes from if there is one. -/
structure ScannedText where
  source : String
  file : Option String

/-- Is anything wrong with a text by itself? -/
def ScannedText.isFaulty (text : ScannedText) : Bool :=
  !(Scan.ofText text.source text.file).diagnostics.isEmpty

/-- The operation came to its end after a last unit of input: a file, or the last line
of a prompt that no line left. The unit was found in the session `before`, and it was
scanned as `text?`, if it was scanned. -/
inductive Treats (session : Session) :
    Operation → (before : Session) → (text? : Option ScannedText) → Prop
  | file (path source : String) (outlet : Outlet) :
    Treats session (.scanFile path (.ok source) outlet) session (some ⟨source, fileName? path⟩)
  | unreadable (path : String) (fault : ReadFault) (outlet : Outlet) :
    Treats session (.scanFile path (.error fault) outlet) session none
  | prompt {input : PromptInput} {outlet : Outlet} (earlier : List (List UInt8))
    (line : List UInt8) (lines : input.lines = earlier ++ [line])
    (stay : ∀ line ∈ input.lines, PromptCommand.ofBytes line ≠ .leave)
    (ends : (outlet.perform (session.prompt input)).result = .ok ()) :
    Treats session (.prompt input outlet) (session.afterScanning (lastScanned? earlier))
      ((PromptCommand.ofBytes line).text?.map (⟨·, none⟩))

/-- A prompt comes to its last line if no line leaves it, no read fails and there is
room for all that it writes. -/
theorem Treats.last_line (session : Session) {bytes : List UInt8}
    (earlier : List (List UInt8)) (line : List UInt8)
    (lines : PromptInput.lines ⟨bytes, none⟩ = earlier ++ [line])
    (stay : ∀ line ∈ PromptInput.lines ⟨bytes, none⟩, PromptCommand.ofBytes line ≠ .leave) :
    session.Treats (.prompt ⟨bytes, none⟩ .unlimited)
      (session.afterScanning (lastScanned? earlier))
      ((PromptCommand.ofBytes line).text?.map (⟨·, none⟩)) :=
  .prompt earlier line lines stay (session.result_prompt bytes)

/-- The flag that is right for a unit: only what is scanned can be faulty. -/
def verdict (text? : Option ScannedText) : Bool := text?.any ScannedText.isFaulty

/-! ## The flag after each unit -/

theorem hasErrors_scanned (session : Session) (source : String) (file : Option String) :
    (session.scanned source file).hasErrors = ScannedText.isFaulty ⟨source, file⟩ := rfl

/-- The last line that is scanned is the last line, or else it is an earlier one. -/
theorem lastScanned?_concat {earlier : List (List UInt8)} {line : List UInt8}
    (stay : ∀ other ∈ earlier ++ [line], PromptCommand.ofBytes other ≠ .leave) :
    lastScanned? (earlier ++ [line]) =
      (PromptCommand.ofBytes line).text?.or (lastScanned? earlier) := by
  have stayEarlier : ∀ line ∈ earlier, PromptCommand.ofBytes line ≠ .leave :=
    fun other member => stay other (List.mem_append_left _ member)
  rw [lastScanned?, lastScanned?, answered_eq_self_iff.mpr stay,
    answered_eq_self_iff.mpr stayEarlier, List.filterMap_append, List.getLast?_append]
  cases text : (PromptCommand.ofBytes line).text? <;> simp [text]

/-- A unit that is scanned sets the flag to its verdict, and any other leaves the flag
as it was. -/
theorem hasErrors_step_of_treats {session before : Session} {operation : Operation}
    {text? : Option ScannedText} (treats : session.Treats operation before text?) :
    (session.step operation).hasErrors =
      (text?.map ScannedText.isFaulty).getD before.hasErrors := by
  cases treats with
  | file path source outlet =>
      rw [step, after_scanFile, hasErrors_scanned]
      rfl
  | unreadable path fault outlet => rfl
  | @prompt input _ earlier line lines stay ends =>
      rw [lines] at stay
      have whole := Outlet.perform_eq_unlimited (session.stopsWhenRefused_prompt input) ends
      rw [step, whole, after_prompt, lines, lastScanned?_concat stay]
      cases (PromptCommand.ofBytes line).text? <;> rfl

/-! ## When the flag is right -/

/-- After any history a unit that is scanned is flagged just if it is faulty, and a unit
that is not scanned leaves the flag that it finds. So the flag is right for the unit
that was treated last, unless this was not scanned and was found under a flag. -/
theorem flag_is_right_iff (showsTokens : Bool) (history : List Operation)
    {operation : Operation} {before : Session} {text? : Option ScannedText}
    (treats : ((start showsTokens).replay history).Treats operation before text?) :
    let reached := ((start showsTokens).replay history).step operation
    reached.hasErrors = (text?.map ScannedText.isFaulty).getD before.hasErrors ∧
      (reached.hasErrors = verdict text? ↔ (text? = none → before.hasErrors = false)) := by
  have flag := hasErrors_step_of_treats treats
  refine ⟨flag, ?_⟩
  rw [flag]
  cases text? <;> simp [verdict]

/-- A session that has scanned a stray character. -/
def flagged : Session := (start false).replay [.scanFile "stray.lox" (.ok "@") .unlimited]

/-- A line with a stray character and then a line with a digit. -/
def strayThenDigit : Operation := .prompt ⟨[64, 10, 49, 10], none⟩ .unlimited

theorem flag_is_right_iff_strayThenDigit :
    let before := flagged.afterScanning (lastScanned? [[64, 10]])
    let reached := flagged.step strayThenDigit
    flagged.Treats strayThenDigit before (some ⟨"1", none⟩) ∧
      reached.hasErrors = ScannedText.isFaulty ⟨"1", none⟩ ∧
      (reached.hasErrors = verdict (some ⟨"1", none⟩) ↔
        (some (⟨"1", none⟩ : ScannedText) = none → before.hasErrors = false)) := by
  have scanned : (PromptCommand.ofBytes [49, 10]).text? = some "1" := by decide +kernel
  have treats : flagged.Treats strayThenDigit
      (flagged.afterScanning (lastScanned? [[64, 10]])) (some ⟨"1", none⟩) := by
    have last : flagged.Treats strayThenDigit _ _ :=
      .last_line flagged [[64, 10]] [49, 10] rfl (by decide +kernel)
    rwa [scanned] at last
  exact ⟨treats, flag_is_right_iff false [.scanFile "stray.lox" (.ok "@") .unlimited] treats⟩

/-- A file that is not there. -/
def missingFile : Operation := .scanFile "missing.lox" (.error .notFound) .unlimited

/-- A line with a stray character and then a line that asks for help. -/
def helpBehindStray : Operation := .prompt ⟨[64, 10, 104, 101, 108, 112, 10], none⟩ .unlimited

/-- A missing file behind a faulty one, and help behind a faulty line, are not scanned and
are flagged all the same. -/
theorem flag_outlives_its_unit :
    (flagged.Treats missingFile flagged none ∧
      (flagged.step missingFile).hasErrors = true ∧ verdict none = false) ∧
    ((∃ before, (start false).Treats helpBehindStray before none) ∧
      ((start false).step helpBehindStray).hasErrors = true ∧ verdict none = false) := by
  have inFile : ScannedText.isFaulty ⟨"@", fileName? "stray.lox"⟩ = true := by decide +kernel
  have onLine : ScannedText.isFaulty ⟨"@", none⟩ = true := by decide +kernel
  constructor
  · refine ⟨.unreadable .., ?_, rfl⟩
    have found : (start false).Treats (.scanFile "stray.lox" (.ok "@") .unlimited) _ _ := .file ..
    have flag : flagged.hasErrors = _ := hasErrors_step_of_treats found
    exact flag.trans inFile
  · have help : (PromptCommand.ofBytes [104, 101, 108, 112, 10]).text? = none := by decide +kernel
    have first : lastScanned? [[64, 10]] = some "@" := by decide +kernel
    have treats : (start false).Treats helpBehindStray _ _ :=
      .last_line (start false) [[64, 10]] [104, 101, 108, 112, 10] rfl (by decide +kernel)
    rw [help, first] at treats
    exact ⟨⟨_, treats⟩, (hasErrors_step_of_treats treats).trans onLine, rfl⟩

end LoxLexer.Session
