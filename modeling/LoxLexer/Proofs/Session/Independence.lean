/-
# A session forgets what is behind it

No operation changes whether tokens are shown, and what an operation makes of the
diagnostics does not depend on that. So after any history a file and a line of
the prompt are treated as in a new session: they are shown with their own tokens
and diagnostics, and these diagnostics are all that is left behind. Only a text
that is run by itself adds to the diagnostics that are there already.

A session goes through scans of texts, files and prompts, in any order. Each of these
begins with what the one before has left, also when an outlet refused it or when
there was nothing to read.
-/

import LoxLexer.Proofs.Session.Bytes

namespace LoxLexer

/-! ## Histories -/

namespace Session

/-- One thing that is asked of a session, with all that it meets outside. -/
inductive Operation
  | run (source : String) (file : Option String)
  | scanFile (path : String) (content : Except ReadFault String) (outlet : Outlet)
  | prompt (input : PromptInput) (outlet : Outlet)

/-- The session after one operation. -/
def step (session : Session) : Operation → Session
  | .run source file => (session.run source file).2
  | .scanFile path content outlet => session.after (outlet.perform (session.scanFile path content))
  | .prompt input outlet => session.after (outlet.perform (session.prompt input))

/-- The session after several operations. -/
def replay (session : Session) (history : List Operation) : Session := history.foldl step session

end Session

/-- The text that a command scans, if it scans one. -/
def PromptCommand.text? : PromptCommand → Option String
  | scan text => some text
  | leave | help => none

namespace Session

open Procedure

/-! ## What a prompt leaves behind -/

/-- The text of the last line that a prompt scans, if it scans one. -/
def lastScanned? (lines : List (List UInt8)) : Option String :=
  ((answered lines).filterMap fun line => (PromptCommand.ofBytes line).text?).getLast?

/-- The session that a prompt leaves, given the last text that it scanned. -/
def afterScanning (session : Session) : Option String → Session
  | some text => session.scanned text none
  | none => session

theorem retained_turnActions (line : List UInt8) :
    (turnActions line).filterMap Action.retained? =
      ((PromptCommand.ofBytes line).text?.map fun text =>
        (⟨(Scan.ofText text none).diagnostics⟩ : Diagnostics)).toList := by
  cases command : PromptCommand.ofBytes line <;>
    simp [turnActions, commandActions, lineActions, command, PromptCommand.text?,
      List.filterMap_cons, Action.retained?]

/-- A prompt leaves the diagnostics of each line that it scans. -/
theorem retained_promptActions (input : PromptInput) :
    (promptActions input).filterMap Action.retained? =
      ((answered input.lines).filterMap fun line => (PromptCommand.ofBytes line).text?).map
        fun text => ⟨(Scan.ofText text none).diagnostics⟩ := by
  have closing : (closingActions (faultReached input.fault input.lines)).filterMap
      Action.retained? = [] := by
    cases faultReached input.fault input.lines <;> rfl
  simp only [promptActions, List.filterMap_append, closing, List.append_nil,
    List.filterMap_flatMap, retained_turnActions]
  rw [List.map_filterMap, List.filterMap_eq_flatMap_toList]

theorem retained_prompt (session : Session) (input : PromptInput) :
    (Outlet.unlimited.perform (session.prompt input)).retained =
      (lastScanned? input.lines).map fun text => ⟨(Scan.ofText text none).diagnostics⟩ := by
  rw [prompt_eq_ofActions, Outlet.perform_unlimited, retained_promptActions, lastScanned?,
    List.getLast?_map]

theorem after_prompt (session : Session) (input : PromptInput) :
    session.after (Outlet.unlimited.perform (session.prompt input)) =
      session.afterScanning (lastScanned? input.lines) := by
  rw [after, retained_prompt]
  cases lastScanned? input.lines <;> rfl

/-- A line that stays in the prompt is answered in the session before it, and the
lines behind it in the session that it leaves. -/
theorem afterScanning_lastScanned?_cons {session next : Session} {line : List UInt8}
    (goesOn : session.next? (.ofBytes line) = some next) (later : List (List UInt8)) :
    next.afterScanning (lastScanned? later) =
      session.afterScanning (lastScanned? (line :: later)) := by
  cases command : PromptCommand.ofBytes line with
  | leave =>
      rw [command] at goesOn
      contradiction
  | help =>
      rw [command] at goesOn
      cases goesOn
      simp [lastScanned?, answered, command, PromptCommand.text?]
  | scan text =>
      rw [command] at goesOn
      cases goesOn
      have last : lastScanned? (line :: later) = some ((lastScanned? later).getD text) := by
        simp [lastScanned?, answered, command, PromptCommand.text?, List.getLast?_cons]
      rw [last]
      cases lastScanned? later <;> rfl

/-- A prompt answers its first lines, and then it goes on in the session that they
leave. -/
theorem answerLines_append {earlier : List (List UInt8)}
    (stay : ∀ line ∈ earlier, PromptCommand.ofBytes line ≠ .leave) (fault : Option String)
    (session : Session) (later : List (List UInt8)) :
    answerLines fault session (earlier ++ later) =
      done (earlier.flatMap turnActions) () >>= fun _ =>
        answerLines fault (session.afterScanning (lastScanned? earlier)) later := by
  induction earlier generalizing session with
  | nil => rfl
  | cons line earlier ih =>
      obtain ⟨stays, stay⟩ := List.forall_mem_cons.mp stay
      obtain ⟨next, goesOn⟩ := exists_next session stays
      rw [List.cons_append, answerLines_stay goesOn, ih stay next,
        afterScanning_lastScanned?_cons goesOn, List.flatMap_cons, done_append]

/-! ## What comes of a file -/

/-- All that comes of a file: whether the session shows tokens is only to be seen
in the bytes. -/
theorem perform_scanFile (session : Session) (path source : String) :
    Outlet.unlimited.perform (session.scanFile path (.ok source)) =
      { accepted :=
          (if session.showsTokens then tokenBytes (Scan.ofText source (fileName? path)).tokens
            else []) ++
            diagnosticBytes (Scan.ofText source (fileName? path)).diagnostics source
        events := (fileActions false path source).filterMap Action.event?
        retained := some ⟨(Scan.ofText source (fileName? path)).diagnostics⟩
        result := .ok (reportOf source (fileName? path)) } := by
  have events : (fileActions session.showsTokens path source).filterMap Action.event? =
      (fileActions false path source).filterMap Action.event? := by
    cases session.showsTokens <;>
      simp [fileActions, tokenActions, Action.event?, Function.comp_def]
  have retained : (fileActions session.showsTokens path source).filterMap Action.retained? =
      [⟨(Scan.ofText source (fileName? path)).diagnostics⟩] := by
    cases session.showsTokens <;> simp [fileActions, List.filterMap_cons, Action.retained?]
  rw [scanFile_ok, done, Outlet.perform_unlimited, bytes_fileActions, events, retained,
    List.getLast?_singleton]

/-! ## Any session -/

/-- What is done in a session is done as in a new one. -/
structure StartsAfresh (session : Session) (showsTokens : Bool) : Prop where
  /-- A file is shown with its own tokens, if they are shown at all, and its own
  diagnostics, and leaves its diagnostics. -/
  file : ∀ path source,
    let scan := Scan.ofText source (fileName? path)
    let performance := Outlet.unlimited.perform (session.scanFile path (.ok source))
    performance.accepted =
      (if showsTokens then tokenBytes scan.tokens else []) ++
        diagnosticBytes scan.diagnostics source ∧
    performance.result = .ok { tokens := scan.tokens, hasErrors := !scan.diagnostics.isEmpty } ∧
    (session.after performance).diagnostics = ⟨scan.diagnostics⟩
  /-- A line of the prompt is shown with its own tokens and diagnostics, and leaves
  its diagnostics, whatever the prompt answered before. -/
  line : ∀ earlier line,
    let scan := Scan.ofText line none
    let reached := session.afterScanning (lastScanned? earlier)
    let performance := Outlet.unlimited.perform (reached.answerLine line)
    performance.accepted = tokenBytes scan.tokens ++ diagnosticBytes scan.diagnostics line ∧
    performance.result = .ok (reached.scanned line none) ∧
    (reached.after performance).diagnostics = ⟨scan.diagnostics⟩
  /-- A prompt that has answered some lines goes on in the session that they leave. -/
  goesOn : ∀ fault (earlier later : List (List UInt8)),
    (∀ line ∈ earlier, PromptCommand.ofBytes line ≠ .leave) →
    answerLines fault session (earlier ++ later) =
      done (earlier.flatMap turnActions) () >>= fun _ =>
        answerLines fault (session.afterScanning (lastScanned? earlier)) later
  /-- A prompt writes one reply after another and leaves the diagnostics of the
  last line that it scanned. -/
  prompt : ∀ input,
    let performance := Outlet.unlimited.perform (session.prompt input)
    performance.accepted = promptBytes input.lines ∧
    session.after performance = session.afterScanning (lastScanned? input.lines)
  /-- A text that is run by itself adds its diagnostics. -/
  run : ∀ source name,
    let scan := Scan.ofText source name
    (session.run source name).1.tokens = scan.tokens ∧
    (session.run source name).2.diagnostics.reported =
      session.diagnostics.reported ++ scan.diagnostics
  /-- A file that cannot be read is not shown at all. -/
  unreadable : ∀ path (fault : ReadFault) outlet,
    let performance := Outlet.perform outlet (session.scanFile path (.error fault))
    performance.accepted = [] ∧
    performance.result = .error (.failed ⟨.unreadableFile path fault.reason, .nowhere, 0⟩)

theorem startsAfresh (session : Session) : session.StartsAfresh session.showsTokens where
  file path source := by
    rw [perform_scanFile]
    exact ⟨rfl, rfl, rfl⟩
  line earlier line := by
    refine ⟨?_, ?_, ?_⟩
    · rw [accepted_answerLine]
      rfl
    · rw [answerLine_eq_done, done, Outlet.perform_unlimited]
    · rw [after_answerLine]
      rfl
  goesOn fault earlier later stay := answerLines_append stay fault session later
  prompt input := by
    exact ⟨session.accepted_prompt input, session.after_prompt input⟩
  run source name := ⟨rfl, rfl⟩
  unreadable path fault outlet := ⟨rfl, rfl⟩

/-! ## Any history -/

theorem showsTokens_step (session : Session) (operation : Operation) :
    (session.step operation).showsTokens = session.showsTokens := by
  cases operation <;> rfl

theorem showsTokens_replay (session : Session) (history : List Operation) :
    (session.replay history).showsTokens = session.showsTokens := by
  induction history generalizing session with
  | nil => rfl
  | cons operation later ih =>
      rw [← showsTokens_step session operation]
      exact ih (session.step operation)

theorem prompt_eq (first second : Session) (input : PromptInput) :
    first.prompt input = second.prompt input := by
  rw [prompt_eq_ofActions, prompt_eq_ofActions]

/-- What a step makes of the diagnostics depends on nothing else in the session. -/
theorem diagnostics_step {first second : Session} (same : first.diagnostics = second.diagnostics)
    (operation : Operation) :
    (first.step operation).diagnostics = (second.step operation).diagnostics := by
  cases operation with
  | run source file => rw [step, step, run, run, same]
  | scanFile path content outlet =>
      cases content with
      | error fault => exact same
      | ok source =>
          rw [step, step, after_scanFile, after_scanFile]
          rfl
  | prompt input outlet => rw [step, step, prompt_eq second first, after, after, same]

theorem diagnostics_replay {first second : Session}
    (same : first.diagnostics = second.diagnostics) (history : List Operation) :
    (first.replay history).diagnostics = (second.replay history).diagnostics := by
  induction history generalizing first second with
  | nil => exact same
  | cons operation later ih => exact ih (diagnostics_step same operation)

/-- Two sessions that differ in nothing but the tokens that they show of a file. -/
structure SameButTokens (first second : Session) : Prop where
  diagnostics : first.diagnostics = second.diagnostics
  prompt : ∀ input, first.prompt input = second.prompt input
  run : ∀ source name, (first.run source name).1 = (second.run source name).1
  file : ∀ path content,
    let performance (session : Session) :=
      Outlet.unlimited.perform (session.scanFile path content)
    (performance first).events = (performance second).events ∧
    (performance first).retained = (performance second).retained ∧
    (performance first).result = (performance second).result

theorem sameButTokens {first second : Session} (same : first.diagnostics = second.diagnostics) :
    SameButTokens first second where
  diagnostics := same
  prompt := prompt_eq first second
  run source name := rfl
  file path content := by
    cases content with
    | error fault => exact ⟨rfl, rfl, rfl⟩
    | ok source =>
        simp only [perform_scanFile, and_self]

/-- After any history a session does what a new one would do, and whether it shows
tokens makes no difference but for the token lines of a file. -/
theorem past_leaves_no_trace (showsTokens : Bool) (history : List Operation) :
    ((start showsTokens).replay history).StartsAfresh showsTokens ∧
    ∀ shown : Bool,
      SameButTokens ((start shown).replay history) ((start showsTokens).replay history) := by
  constructor
  · have afresh := startsAfresh ((start showsTokens).replay history)
    rwa [showsTokens_replay] at afresh
  · intro shown
    have same : (start shown).diagnostics = (start showsTokens).diagnostics := rfl
    exact sameButTokens (diagnostics_replay same history)

end Session

end LoxLexer
