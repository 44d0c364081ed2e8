/-
# Lexical and fatal diagnostics never mix

What a session keeps was found in a text: a scan recovers from it, and it is displayed
with its line. What ends an operation belongs to no text: a file that cannot be read or a
transfer that failed. This stays so whatever a session goes through and however little
room its outlets have, because the scan never rejects a token of its own and nothing that
ends an operation is left behind.
-/

import LoxLexer.Proofs.Scan.Reported
import LoxLexer.Proofs.Session.Independence

namespace LoxLexer

/-- A diagnostic of a text: a scan recovers from it, and it is displayed with its line. -/
structure Diagnostic.IsRecoverable (diagnostic : Diagnostic) : Prop where
  cause : diagnostic.cause.IsReported
  lexical : diagnostic.cause.isLexical = true
  line : 1 ≤ diagnostic.line
  display : diagnostic.display =
    "[line " ++ diagnostic.line.repr ++ "] Error: " ++ diagnostic.cause.message

/-- A diagnostic of no text: a file cannot be read, or a transfer failed. -/
structure Diagnostic.IsFatal (diagnostic : Diagnostic) : Prop where
  cause : (∃ path reason, diagnostic.cause = .unreadableFile path reason) ∨
    ∃ reason, diagnostic.cause = .transfer reason
  unlexical : diagnostic.cause.isLexical = false
  line : diagnostic.line = 0
  position : diagnostic.position = .nowhere
  display : diagnostic.display = "Error: " ++ diagnostic.cause.message

/-- The stop is told by a fatal diagnostic. -/
def Stop.IsFatal (stop : Stop) : Prop :=
  ∃ diagnostic, stop.diagnostic? = some diagnostic ∧ diagnostic.IsFatal

/-- If the operation does not come to its end, the reason is fatal. -/
def Performance.FailsFatally {α : Type} (performance : Performance (Except Stop α)) : Prop :=
  ∀ stop, performance.result = .error stop → stop.IsFatal

/-! ## What is fatal -/

theorem Diagnostic.IsFatal.unreadableFile (path reason : String) :
    (placeless (.unreadableFile path reason)).IsFatal :=
  ⟨.inl ⟨path, reason, rfl⟩, rfl, rfl, rfl, rfl⟩

theorem Diagnostic.IsFatal.transfer (reason : String) : (placeless (.transfer reason)).IsFatal :=
  ⟨.inr ⟨reason, rfl⟩, rfl, rfl, rfl, rfl⟩

theorem Stop.IsFatal.unwritable (reason : String) : (unwritable reason).IsFatal :=
  ⟨_, rfl, .transfer reason⟩

/-- An outlet adds no other reason to stop than a refused text. -/
theorem Outlet.failsFatally_perform {α : Type} {actions : List Action} {result : Except Stop α}
    (own : ∀ stop, result = .error stop → stop.IsFatal) (outlet : Outlet) :
    (outlet.perform (Procedure.ofActions result actions)).FailsFatally := by
  intro stop stops
  rcases (outlet.takes_perform result actions).result_eq_or with ended | refused
  · exact own stop (ended.symm.trans stops)
  · cases refused.symm.trans stops
    exact .unwritable outlet.reason

/-! ## What a scan reports -/

theorem Cause.IsReported.isLexical {cause : Cause} (reported : cause.IsReported) :
    cause.isLexical = true := by
  cases reported <;> rfl

theorem Scan.isRecoverable_of_mem_diagnostics {keywords : KeywordTable} {file : String}
    {source : List Char} {diagnostic : Diagnostic}
    (member : diagnostic ∈ (ofSource keywords file source).diagnostics) :
    diagnostic.IsRecoverable := by
  obtain ⟨before, later, -, -, line⟩ := exists_cut_of_mem_diagnostics member
  have reported := (isReported_of_mem_diagnostics member).1
  constructor
  case cause => exact reported
  case lexical => exact reported.isLexical
  case line => omega
  case display => exact if_neg (by omega)

namespace Session

open Procedure

/-! ## What a session keeps -/

/-- All diagnostics of the session are recoverable. -/
def KeepsRecoverable (session : Session) : Prop :=
  ∀ diagnostic ∈ session.diagnostics.reported, diagnostic.IsRecoverable

theorem keepsRecoverable_scanned (session : Session) (source : String) (file : Option String) :
    (session.scanned source file).KeepsRecoverable :=
  fun _ member => Scan.isRecoverable_of_mem_diagnostics member

/-- Whatever room there is, a prompt leaves the diagnostics of one of its lines, or
those that it finds. -/
theorem after_prompt_eq_or (session : Session) (input : PromptInput) (outlet : Outlet) :
    session.after (outlet.perform (session.prompt input)) = session ∨
      ∃ text, session.after (outlet.perform (session.prompt input)) =
        session.scanned text none := by
  cases left : (outlet.perform (session.prompt input)).retained with
  | none =>
      left
      rw [after, left]
      rfl
  | some kept =>
      right
      have behind := left
      rw [prompt_eq_ofActions] at behind
      obtain ⟨action, member, keeps⟩ := Outlet.exists_of_retained_perform _ behind
      have among : kept ∈ (promptActions input).filterMap Action.retained? :=
        List.mem_filterMap.mpr ⟨action, member, keeps⟩
      rw [retained_promptActions] at among
      obtain ⟨text, -, rfl⟩ := List.mem_map.mp among
      refine ⟨text, ?_⟩
      rw [after, left]
      rfl

theorem keepsRecoverable_step {session : Session} (keeps : session.KeepsRecoverable)
    (operation : Operation) : (session.step operation).KeepsRecoverable := by
  cases operation with
  | run source file =>
      intro diagnostic member
      rcases List.mem_append.mp member with earlier | found
      · exact keeps diagnostic earlier
      · exact Scan.isRecoverable_of_mem_diagnostics found
  | scanFile path content outlet =>
      cases content with
      | error fault => exact keeps
      | ok source =>
          rw [step, after_scanFile]
          exact keepsRecoverable_scanned session source (fileName? path)
  | prompt input outlet =>
      rw [step]
      rcases session.after_prompt_eq_or input outlet with same | ⟨text, scanned⟩
      · rwa [same]
      · rw [scanned]
        exact keepsRecoverable_scanned session text none

theorem keepsRecoverable_replay {session : Session} (keeps : session.KeepsRecoverable)
    (history : List Operation) : (session.replay history).KeepsRecoverable := by
  induction history generalizing session with
  | nil => exact keeps
  | cons operation later ih => exact ih (keepsRecoverable_step keeps operation)

/-! ## How operations fail -/

theorem failsFatally_scanFile (session : Session) (path : String)
    (content : Except ReadFault String) (outlet : Outlet) :
    (outlet.perform (session.scanFile path content)).FailsFatally := by
  cases content with
  | error fault =>
      rintro _ ⟨⟩
      exact ⟨_, rfl, .unreadableFile path fault.reason⟩
  | ok source =>
      rw [scanFile_ok]
      apply Outlet.failsFatally_perform
      nofun

theorem failsFatally_prompt (session : Session) (input : PromptInput) (outlet : Outlet) :
    (outlet.perform (session.prompt input)).FailsFatally := by
  rw [prompt_eq_ofActions]
  apply Outlet.failsFatally_perform
  cases faultReached input.fault input.lines with
  | none =>
      intro stop stops
      contradiction
  | some reason =>
      rintro _ ⟨⟩
      exact ⟨_, rfl, .transfer reason⟩

theorem failsFatally_notice (report : FileReport) (outlet : Outlet) :
    (outlet.perform report.notice).FailsFatally := by
  rw [notice_eq_done]
  apply Outlet.failsFatally_perform
  nofun

/-! ## Both -/

/-- A scan reports nothing but stray characters and open strings, and every token that it
makes is valid as it is. So after any history a session keeps nothing but lexical
diagnostics with their lines, while a file, a prompt and a notice fail with nothing but
fatal ones. -/
theorem lexical_and_fatal_never_mix :
    (∀ keywords file source,
      (∀ diagnostic ∈ (Scan.ofSource keywords file source).diagnostics,
        diagnostic.cause.IsReported) ∧
      ∀ token ∈ (Scan.ofSource keywords file source).tokens,
        Token.validate ⟨token.kind, token.lexeme, token.literal, token.line, token.span⟩ =
          .ok token) ∧
    ∀ (showsTokens : Bool) (history : List Operation),
      let reached := (start showsTokens).replay history
      reached.KeepsRecoverable ∧
      ∀ outlet : Outlet,
        (∀ path content, (outlet.perform (reached.scanFile path content)).FailsFatally) ∧
        (∀ input, (outlet.perform (reached.prompt input)).FailsFatally) ∧
        ∀ report : FileReport, (outlet.perform report.notice).FailsFatally := by
  constructor
  · intro keywords file source
    exact ⟨fun diagnostic member => (Scan.isReported_of_mem_diagnostics member).1,
      fun token member => Scan.validate_of_mem_tokens member⟩
  · intro showsTokens history reached
    have fresh : (start showsTokens).KeepsRecoverable := nofun
    refine ⟨keepsRecoverable_replay fresh history, ?_⟩
    intro outlet
    exact ⟨fun path content => failsFatally_scanFile reached path content outlet,
      fun input => failsFatally_prompt reached input outlet,
      fun report => failsFatally_notice report outlet⟩

/-- A file with a stray character at an outlet that breaks off, and then a file that is
not there. -/
def brokenOffThenMissing : List Operation :=
  [.scanFile "stray.lox" (.ok "@") ⟨some 3, "closed"⟩,
    .scanFile "missing.lox" (.error .notFound) .unlimited]

theorem lexical_and_fatal_never_mix_brokenOffThenMissing :
    let reached := (start false).replay brokenOffThenMissing
    let stray : Diagnostic := ⟨.unexpectedCharacter '@', ⟨0, "stray.lox"⟩, 1⟩
    (stray ∈ reached.diagnostics.reported ∧ stray.IsRecoverable) ∧
      (Outlet.perform ⟨some 1, "closed"⟩ (reached.prompt ⟨[], none⟩)).result =
        .error (.unwritable "closed") ∧
      (Stop.unwritable "closed").IsFatal := by
  intro reached stray
  have apart := lexical_and_fatal_never_mix.2 false brokenOffThenMissing
  have kept : stray ∈ reached.diagnostics.reported := by decide +kernel
  have refused : (Outlet.perform ⟨some 1, "closed"⟩ (reached.prompt ⟨[], none⟩)).result =
      .error (.unwritable "closed") := by decide +kernel
  exact ⟨⟨kept, apart.1 stray kept⟩, refused, (apart.2 ⟨some 1, "closed"⟩).2.1 _ _ refused⟩

end Session

end LoxLexer
