/-
# Diagnostics of a scan can be shown

The scanner counts line feeds as it goes, and a diagnostic is shown by dividing
the source anew from an offset. Both find the same line. The offset is never
inside a character, so nothing that a session shows is cut there.
-/

import LoxLexer.Proofs.Session.Completion

namespace LoxLexer

open Procedure

/-- The diagnostic stands in the source where a character begins or the source
ends, and it is shown without a stop, in five lines that tell its line. -/
structure Diagnostic.IsShownIn (diagnostic : Diagnostic) (source : String) : Prop where
  inside : diagnostic.position.offset ≤ Text.byteSize source.toList
  cut : ∃ before later,
    Text.splitAtByte? diagnostic.position.offset source.toList = some (before, later)
  located : ∃ spot, Text.locate source.toList diagnostic.position.offset = some spot ∧
    spot.number = diagnostic.line
  ends : (Outlet.unlimited.perform (diagnostic.render source.toList)).result = .ok ()
  written : ∃ lines : List String, lines.length = 5 ∧ (∀ line ∈ lines, '\n' ∉ line.toList) ∧
    (Outlet.unlimited.perform (diagnostic.render source.toList)).accepted =
      Text.Utf8.encode (lines.flatMap fun line => line.toList ++ ['\n']) ∧
    (∃ message, lines[0]? = some ("[line " ++ diagnostic.line.repr ++ "] Error: " ++ message)) ∧
    ∃ text, lines[3]? = some (diagnostic.line.repr ++ " | " ++ text)

namespace Diagnostic

theorem IsDisplayedAs.eq_of_line {diagnostic : Diagnostic} {displayed : String}
    (display : diagnostic.IsDisplayedAs displayed) (line : diagnostic.line ≠ 0) :
    displayed = "[line " ++ diagnostic.line.repr ++ "] Error: " ++ diagnostic.cause.message := by
  cases display with
  | placed => rfl
  | placeless none => exact absurd none line

/-- The first line of a snippet begins with the line number. -/
theorem IsHeadedBy.exists_eq {diagnostic : Diagnostic} {header : String}
    (heads : diagnostic.IsHeadedBy header) (line : diagnostic.line ≠ 0) :
    ∃ message, header = "[line " ++ diagnostic.line.repr ++ "] Error: " ++ message := by
  cases heads with
  | plain display => exact ⟨_, display.eq_of_line line⟩
  | @advised _ tip display =>
      refine ⟨diagnostic.cause.message ++ " (" ++ tip ++ ")", ?_⟩
      simp only [display.eq_of_line line, String.append_assoc]

theorem lineFeed_not_mem_message {cause : Cause} (reported : cause.IsReported) :
    '\n' ∉ cause.message.toList := by
  cases reported with
  | unexpectedCharacter =>
      change '\n' ∉ ("Unexpected character " ++ Text.quotedCharacter _).toList
      simp
  | unterminatedString =>
      change '\n' ∉ "Unterminated string".toList
      simp

theorem lineFeed_not_mem_tip {cause : Cause} (reported : cause.IsReported) :
    ∀ tip ∈ cause.tip?, '\n' ∉ tip.toList := by
  rintro tip given
  cases reported with
  | unexpectedCharacter sameLine =>
      cases given
      simp [Ne.symm sameLine]
  | unterminatedString =>
      cases given
      simp

end Diagnostic

theorem isShownIn_of_mem_diagnostics {source : String} {file : Option String}
    (oneLine : '\n' ∉ (file.getD Scan.shellName).toList) {diagnostic : Diagnostic}
    (member : diagnostic ∈ (Scan.ofText source file).diagnostics) :
    diagnostic.IsShownIn source := by
  obtain ⟨before, later, whole, offset, line⟩ := Scan.exists_cut_of_mem_diagnostics member
  have rendered : diagnostic.render source.toList =
      ofLines (diagnostic.snippet before later) (.ok ()) := whole ▸ Diagnostic.render_append offset
  obtain ⟨reported, named⟩ := Scan.isReported_of_mem_diagnostics member
  have first := diagnostic.isHeadedBy_header.exists_eq (show diagnostic.line ≠ 0 by omega)
  have header := diagnostic.isHeadedBy_header.lineFeed_not_mem
    (Diagnostic.lineFeed_not_mem_message reported) (Diagnostic.lineFeed_not_mem_tip reported)
  constructor
  case inside => simp [whole, offset]
  case cut => exact ⟨before, later, by rw [whole, offset, Text.splitAtByte?_append]⟩
  case located => exact ⟨_, by rw [whole, offset, Text.locate_append], line.symm⟩
  case ends =>
      rw [rendered, ofLines, Outlet.perform_unlimited]
  case written =>
      refine ⟨diagnostic.snippet before later, rfl, ?_, ?_, ?_, ?_⟩
      · exact Diagnostic.lineFeed_not_mem_snippet header (named ▸ oneLine) before later
      · rw [rendered, Outlet.accepted_ofLines]
        rfl
      · obtain ⟨message, front⟩ := first
        exact ⟨message, congrArg some front⟩
      · rw [line]
        exact ⟨_, rfl⟩

namespace Session

/-- Neither scanning a file nor the prompt ever cuts a text inside a character. -/
theorem result_perform_scanFile_ne (session : Session) (path : String)
    (content : Except ReadFault String) (outlet : Outlet) :
    (outlet.perform (session.scanFile path content)).result ≠ .error .insideCharacter := by
  cases content with
  | error fault => nofun
  | ok source =>
      rw [scanFile_ok]
      exact (Outlet.takes_perform ..).result_ne nofun nofun

theorem result_perform_prompt_ne (session : Session) (input : PromptInput) (outlet : Outlet) :
    (outlet.perform (session.prompt input)).result ≠ .error .insideCharacter := by
  rw [prompt_eq_ofActions]
  refine (Outlet.takes_perform ..).result_ne ?_ ?_
  · nofun
  · cases faultReached input.fault input.lines <;> nofun

/-- Every diagnostic of a scan stands in its source and can be shown there. So no
file and no prompt is ever cut inside a character. -/
theorem reported_diagnostics_are_shown (source : String) (file : Option String)
    (oneLine : '\n' ∉ (file.getD Scan.shellName).toList) :
    (∀ diagnostic ∈ (Scan.ofText source file).diagnostics, diagnostic.IsShownIn source) ∧
    ∀ (session : Session) (outlet : Outlet),
      (∀ path content,
        (outlet.perform (session.scanFile path content)).result ≠ .error .insideCharacter) ∧
      ∀ input, (outlet.perform (session.prompt input)).result ≠ .error .insideCharacter := by
  constructor
  · intro diagnostic member
    exact isShownIn_of_mem_diagnostics oneLine member
  · intro session outlet
    exact ⟨fun path content => session.result_perform_scanFile_ne path content outlet,
      fun input => session.result_perform_prompt_ne input outlet⟩

/-- A tab, two characters that begin nothing and a string that is open behind the
last line feed. -/
def openBehindStray : String := .ofList ['\t', 'é', '\x0b', '\n', '"', '\n']

theorem reported_diagnostics_are_shown_openBehindStray :
    '\n' ∉ "m.lox".toList ∧
      ⟨.unterminatedString, ⟨7, "m.lox"⟩, 3⟩ ∈
        (Scan.ofText openBehindStray (some "m.lox")).diagnostics ∧
      (⟨.unterminatedString, ⟨7, "m.lox"⟩, 3⟩ : Diagnostic).IsShownIn openBehindStray := by
  have oneLine : '\n' ∉ "m.lox".toList := by simp
  have member : ⟨.unterminatedString, ⟨7, "m.lox"⟩, 3⟩ ∈
      (Scan.ofText openBehindStray (some "m.lox")).diagnostics := by
    rw [Scan.ofText, openBehindStray, String.toList_ofList]
    decide +kernel
  exact ⟨oneLine, member,
    (reported_diagnostics_are_shown openBehindStray (some "m.lox") oneLine).1 _ member⟩

end Session

end LoxLexer
