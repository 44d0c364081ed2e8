/-
# Exit statuses tell the truth

The status of a run says what came of its one operation: a script that could not be read
or written down, a script with diagnostics, a prompt that failed, or none of these.
Standard error has the diagnostic that ended the operation and nothing else. The notice
of a script with diagnostics comes last. At an outlet that refuses every byte it is never
reached, because such a script is refused before, when its diagnostics are shown.
-/

import LoxLexer.CommandLine.Run
import LoxLexer.Proofs.Session.Bytes
import LoxLexer.Proofs.Session.Severity

namespace LoxLexer

/-! ## An outlet without room -/

/-- The outlet that refuses every byte. -/
def Outlet.full (reason : String) : Outlet := ⟨some 0, reason⟩

namespace Outlet

variable {α : Type} (reason : String)

/-- No byte is accepted there, also where an interaction goes on. -/
theorem accepted_perform_full (interaction : Interaction α) :
    ((full reason).perform interaction).accepted = [] := by
  induction interaction with
  | finish value => rfl
  | offer text next ih => exact ih _
  | tell event next ih => exact ih
  | leave diagnostics next ih => exact ih

/-- Only what writes nothing comes to its own end there. -/
theorem result_perform_full (result : Except Stop α) (actions : List Action) :
    ((full reason).perform (Procedure.ofActions result actions)).result =
      if actions.flatMap Action.bytes = [] then result else .error (.unwritable reason) := by
  rw [result_perform_ofActions]
  cases actions.flatMap Action.bytes <;> rfl

end Outlet

namespace CommandLine

/-! ## What a run can tell -/

/-- The bytes of the notice. -/
def noticeBytes : List UInt8 := Text.Utf8.encode (FileReport.noticeText ++ "\n").toList

/-- What the output makes of the script, apart from the notice. -/
def scriptRun (surroundings : Surroundings) (showsTokens : Bool) (path : String) :
    Performance (Except Stop FileReport) :=
  surroundings.output.perform ((Session.start showsTokens).scanFile path (surroundings.read path))

/-- What the output makes of the prompt. -/
def promptRun (surroundings : Surroundings) (showsTokens : Bool) :
    Performance (Except Stop Unit) :=
  surroundings.output.perform (Session.converse surroundings.input showsTokens)

/-- The result tells what came of the script. -/
structure TellsScript (surroundings : Surroundings) (showsTokens : Bool) (path : String)
    (result : Result) : Prop where
  transferError : result.status.code = 74 ↔
    (∃ fault, surroundings.read path = .error fault) ∨
      ∃ reason, (scriptRun surroundings showsTokens path).result = .error (.unwritable reason)
  dataError : result.status.code = 65 ↔
    ∃ source report, surroundings.read path = .ok source ∧
      (scriptRun surroundings showsTokens path).result = .ok report ∧
      (Scan.ofText source (fileName? path)).diagnostics ≠ []
  success : result.status.code = 0 ↔ result.status.code ≠ 74 ∧ result.status.code ≠ 65
  /-- Standard error has the diagnostic of the failure. -/
  told : result.status.code = 74 → ∃ stop diagnostic,
    (scriptRun surroundings showsTokens path).result = .error stop ∧
      stop.diagnostic? = some diagnostic ∧ result.complaints = diagnostic.display ++ "\n"
  silent : result.status.code = 0 ∨ result.status.code = 65 → result.complaints = ""
  unread : ∀ fault, surroundings.read path = .error fault → result.output = []
  /-- Where nothing is refused, the output has tokens if they are shown, diagnostics,
  and the notice just if the status says so. -/
  shown : surroundings.output = .unlimited → ∀ source, surroundings.read path = .ok source →
    let scan := Scan.ofText source (fileName? path)
    result.output =
      (if showsTokens then Session.tokenBytes scan.tokens else []) ++
        Session.diagnosticBytes scan.diagnostics source ++
        if result.status.code = 65 then noticeBytes else []
  /-- Where everything is refused, only a script of which nothing is to be shown succeeds. -/
  refused : ∀ reason, surroundings.output = .full reason →
    result.output = [] ∧ result.status.code ≠ 65 ∧
      (result.status.code = 0 ↔ ∃ source, surroundings.read path = .ok source ∧
        (Scan.ofText source (fileName? path)).diagnostics = [] ∧ showsTokens = false)

/-- The result tells what came of the prompt. -/
structure TellsPrompt (surroundings : Surroundings) (showsTokens : Bool) (result : Result) :
    Prop where
  failure : result.status.code = 1 ↔
    ∃ stop, (promptRun surroundings showsTokens).result = .error stop
  success : result.status.code = 0 ↔ result.status.code ≠ 1
  /-- Standard error has the diagnostic of the failure. -/
  told : result.status.code = 1 → ∃ stop diagnostic,
    (promptRun surroundings showsTokens).result = .error stop ∧
      stop.diagnostic? = some diagnostic ∧ result.complaints = diagnostic.display ++ "\n"
  silent : result.status.code = 0 → result.complaints = ""
  /-- Where nothing is refused, only a fault of reading is a failure, and only if no line
  says to leave before. What is wrong with the lines makes no difference. -/
  shown : surroundings.output = .unlimited →
    result.output = Session.promptBytes surroundings.input.lines ∧
      (result.status.code = 1 ↔ surroundings.input.fault ≠ none ∧
        ∀ line ∈ surroundings.input.lines, PromptCommand.ofBytes line ≠ .leave)
  /-- Where everything is refused, the prompt fails. -/
  refused : ∀ reason, surroundings.output = .full reason →
    result.output = [] ∧ result.status.code = 1

/-- The result tells what came of the run that the options ask for. -/
def Tells (surroundings : Surroundings) (result : Result) : Options → Prop
  | ⟨showsTokens, some path⟩ => TellsScript surroundings showsTokens path result
  | ⟨showsTokens, none⟩ => TellsPrompt surroundings showsTokens result

/-- What ends an operation is told by its diagnostic. -/
theorem exists_complaint_of_error {α : Type} {performance : Performance (Except Stop α)}
    (fatal : performance.FailsFatally) {stop : Stop} (stopped : performance.result = .error stop) :
    ∃ diagnostic, stop.diagnostic? = some diagnostic ∧
      complaint performance.result = diagnostic.display ++ "\n" := by
  obtain ⟨diagnostic, told, -⟩ := fatal stop stopped
  refine ⟨diagnostic, told, ?_⟩
  rw [stopped, complaint, told]

/-! ## The ways in which a script ends -/

section Script

variable {surroundings : Surroundings} {showsTokens : Bool} {path source : String}

/-- The result of a run with a script. -/
def runScript (surroundings : Surroundings) (showsTokens : Bool) (path : String) : Result :=
  .ofPerformance (surroundings.output.perform
    (script showsTokens path (surroundings.read path)))

theorem runScript_of_error {stop : Stop}
    (stopped : (scriptRun surroundings showsTokens path).result = .error stop) :
    runScript surroundings showsTokens path =
      ⟨.transferError, (scriptRun surroundings showsTokens path).accepted,
        complaint (scriptRun surroundings showsTokens path).result⟩ := by
  rw [scriptRun] at stopped ⊢
  simp only [runScript, script, Outlet.perform_bind, ExceptT.run, stopped, Outlet.perform_pure,
    List.append_nil]
  rfl

theorem runScript_of_ok {report : FileReport}
    (ended : (scriptRun surroundings showsTokens path).result = .ok report) :
    runScript surroundings showsTokens path =
      let accepted := (scriptRun surroundings showsTokens path).accepted
      let notice := (surroundings.output.afterTaking accepted.length).perform report.notice
      ⟨if report.hasErrors then .dataError else .success, accepted ++ notice.accepted,
        complaint notice.result⟩ := by
  rw [scriptRun] at ended ⊢
  simp only [runScript, script, Outlet.perform_bind, ExceptT.run, ended, Outlet.perform_pure,
    List.append_nil]
  rfl

theorem code_runScript_of_error {stop : Stop}
    (stopped : (scriptRun surroundings showsTokens path).result = .error stop) :
    (runScript surroundings showsTokens path).status.code = 74 := by
  rw [runScript_of_error stopped]
  rfl

theorem code_runScript_of_ok {report : FileReport}
    (ended : (scriptRun surroundings showsTokens path).result = .ok report) :
    (runScript surroundings showsTokens path).status.code = if report.hasErrors then 65 else 0 := by
  rw [runScript_of_ok ended]
  cases report.hasErrors <;> rfl

/-- A script cannot be read, or is refused, or comes to its end. -/
theorem result_scriptRun_or (surroundings : Surroundings) (showsTokens : Bool) (path : String) :
    (∃ fault, surroundings.read path = .error fault ∧
      (scriptRun surroundings showsTokens path).result =
        .error (.failed (.placeless (.unreadableFile path fault.reason)))) ∨
    ∃ source, surroundings.read path = .ok source ∧
      ((scriptRun surroundings showsTokens path).result =
          .error (.unwritable surroundings.output.reason) ∨
        (scriptRun surroundings showsTokens path).result =
          .ok (Session.reportOf source (fileName? path))) := by
  rw [scriptRun]
  cases surroundings.read path with
  | error fault => exact .inl ⟨fault, rfl, rfl⟩
  | ok source =>
      rw [Session.scanFile_ok]
      exact .inr ⟨source, rfl, (Outlet.takes_perform ..).result_eq_or.symm⟩

theorem code_runScript_eq_transferError_iff :
    (runScript surroundings showsTokens path).status.code = 74 ↔
      (∃ fault, surroundings.read path = .error fault) ∨
        ∃ reason, (scriptRun surroundings showsTokens path).result =
          .error (.unwritable reason) := by
  rcases result_scriptRun_or surroundings showsTokens path with
    ⟨fault, unread, stopped⟩ | ⟨source, read, refused | ended⟩
  · simp [code_runScript_of_error stopped, unread]
  · simp [code_runScript_of_error refused, refused]
  · rw [code_runScript_of_ok ended]
    split <;> simp [read, ended]

theorem code_runScript_eq_dataError_iff :
    (runScript surroundings showsTokens path).status.code = 65 ↔
      ∃ source report, surroundings.read path = .ok source ∧
        (scriptRun surroundings showsTokens path).result = .ok report ∧
        (Scan.ofText source (fileName? path)).diagnostics ≠ [] := by
  rcases result_scriptRun_or surroundings showsTokens path with
    ⟨fault, unread, stopped⟩ | ⟨source, read, refused | ended⟩
  · simp [code_runScript_of_error stopped, unread]
  · simp [code_runScript_of_error refused, refused]
  · rw [code_runScript_of_ok ended]
    simp [read, ended, Session.reportOf]

theorem code_runScript_eq_success_iff :
    (runScript surroundings showsTokens path).status.code = 0 ↔
      (runScript surroundings showsTokens path).status.code ≠ 74 ∧
        (runScript surroundings showsTokens path).status.code ≠ 65 := by
  cases result : (scriptRun surroundings showsTokens path).result with
  | error stop => simp [code_runScript_of_error result]
  | ok report =>
      rw [code_runScript_of_ok result]
      split <;> simp

/-- Standard error has the diagnostic that ended the script. -/
theorem complaints_runScript_of_code
    (failed : (runScript surroundings showsTokens path).status.code = 74) :
    ∃ stop diagnostic, (scriptRun surroundings showsTokens path).result = .error stop ∧
      stop.diagnostic? = some diagnostic ∧
      (runScript surroundings showsTokens path).complaints = diagnostic.display ++ "\n" := by
  cases result : (scriptRun surroundings showsTokens path).result with
  | error stop =>
      obtain ⟨diagnostic, told, complained⟩ :=
        exists_complaint_of_error (Session.failsFatally_scanFile _ _ _ _) result
      refine ⟨stop, diagnostic, rfl, told, ?_⟩
      rw [runScript_of_error result]
      exact complained
  | ok report =>
      rw [code_runScript_of_ok result] at failed
      split at failed <;> contradiction

/-! ## A full outlet -/

section Full

variable {reason : String} (full : surroundings.output = .full reason)

include full

/-- A full outlet takes only a script of which nothing is to be shown. -/
theorem result_scriptRun_of_full (showsTokens : Bool) (read : surroundings.read path = .ok source) :
    (scriptRun surroundings showsTokens path).result =
      if showsTokens = false ∧ (Scan.ofText source (fileName? path)).diagnostics = [] then
        .ok (Session.reportOf source (fileName? path))
      else .error (.unwritable reason) := by
  rw [scriptRun, read, full, Session.scanFile_ok, Procedure.done, Outlet.result_perform_full]
  simp only [Session.bytes_fileActions_eq_nil_iff]
  rfl

/-- What comes to its end at a full outlet is without diagnostics. -/
theorem hasErrors_eq_false_of_full {report : FileReport}
    (ended : (scriptRun surroundings showsTokens path).result = .ok report) :
    report.hasErrors = false := by
  rcases result_scriptRun_or surroundings showsTokens path with
    ⟨fault, unread, stopped⟩ | ⟨source, read, -⟩
  · cases stopped.symm.trans ended
  · rw [result_scriptRun_of_full full showsTokens read] at ended
    split at ended
    · next silent =>
        cases ended
        rw [Session.reportOf, silent.2]
        rfl
    · contradiction

theorem output_runScript_of_full : (runScript surroundings showsTokens path).output = [] := by
  rw [runScript, full]
  exact Outlet.accepted_perform_full reason _

theorem code_runScript_ne_dataError_of_full :
    (runScript surroundings showsTokens path).status.code ≠ 65 := by
  cases result : (scriptRun surroundings showsTokens path).result with
  | error stop => simp [code_runScript_of_error result]
  | ok report => simp [code_runScript_of_ok result, hasErrors_eq_false_of_full full result]

theorem code_runScript_eq_success_iff_of_full :
    (runScript surroundings showsTokens path).status.code = 0 ↔
      ∃ source, surroundings.read path = .ok source ∧
        (Scan.ofText source (fileName? path)).diagnostics = [] ∧ showsTokens = false := by
  rcases result_scriptRun_or surroundings showsTokens path with
    ⟨fault, unread, stopped⟩ | ⟨source, read, -⟩
  · simp [code_runScript_of_error stopped, unread]
  · have result := result_scriptRun_of_full full showsTokens read
    split at result
    · next silent =>
        rw [code_runScript_of_ok result]
        simp [Session.reportOf, read, silent]
    · next written =>
        rw [code_runScript_of_error result]
        simp only [read, Except.ok.injEq, exists_eq_left']
        exact iff_of_false (by decide) fun ⟨clean, hides⟩ => written ⟨hides, clean⟩

end Full

/-! ## An outlet that takes everything -/

theorem perform_notice (report : FileReport) :
    Outlet.unlimited.perform report.notice =
      ⟨if report.hasErrors then noticeBytes else [], [], none, .ok ()⟩ := by
  rw [Session.notice_eq_done, Procedure.done, Outlet.perform_unlimited]
  cases report.hasErrors with
  | false => rfl
  | true => simp [noticeBytes, Action.bytes, Action.event?, Action.retained?]

theorem output_runScript_of_unlimited (unlimited : surroundings.output = .unlimited)
    (read : surroundings.read path = .ok source) :
    let scan := Scan.ofText source (fileName? path)
    (runScript surroundings showsTokens path).output =
      (if showsTokens then Session.tokenBytes scan.tokens else []) ++
        Session.diagnosticBytes scan.diagnostics source ++
        if (runScript surroundings showsTokens path).status.code = 65 then noticeBytes else [] := by
  have ended : (scriptRun surroundings showsTokens path).result =
      .ok (Session.reportOf source (fileName? path)) := by
    rw [scriptRun, read, unlimited, Session.perform_scanFile]
  have accepted :
      let scan := Scan.ofText source (fileName? path)
      (scriptRun surroundings showsTokens path).accepted =
        (if showsTokens then Session.tokenBytes scan.tokens else []) ++
          Session.diagnosticBytes scan.diagnostics source := by
    rw [scriptRun, read, unlimited, Session.perform_scanFile]
    rfl
  rw [code_runScript_of_ok ended, runScript_of_ok ended, accepted, unlimited]
  simp only [Outlet.afterTaking_unlimited, perform_notice]
  cases (Session.reportOf source (fileName? path)).hasErrors <;> rfl

/-- Where all or nothing is taken, a script that comes to its end is followed by its whole
notice, and nothing is told. -/
theorem complaints_runScript_of_ok {report : FileReport}
    (ended : (scriptRun surroundings showsTokens path).result = .ok report)
    (output : surroundings.output = .unlimited ∨ ∃ reason, surroundings.output = .full reason) :
    (runScript surroundings showsTokens path).complaints = "" := by
  rw [runScript_of_ok ended]
  rcases output with unlimited | ⟨reason, full⟩
  · simp only [unlimited, Outlet.afterTaking_unlimited, perform_notice]
    rfl
  · rw [FileReport.notice, hasErrors_eq_false_of_full full ended]
    rfl

theorem tellsScript
    (output : surroundings.output = .unlimited ∨ ∃ reason, surroundings.output = .full reason) :
    TellsScript surroundings showsTokens path (runScript surroundings showsTokens path) where
  transferError := code_runScript_eq_transferError_iff
  dataError := code_runScript_eq_dataError_iff
  success := code_runScript_eq_success_iff
  told := complaints_runScript_of_code
  silent := by
    intro unfailed
    cases result : (scriptRun surroundings showsTokens path).result with
    | error stop => simp [code_runScript_of_error result] at unfailed
    | ok report => exact complaints_runScript_of_ok result output
  unread fault unread := by
    rw [runScript, unread]
    rfl
  shown := fun unlimited source read => output_runScript_of_unlimited unlimited read
  refused := fun reason full => ⟨output_runScript_of_full full,
    code_runScript_ne_dataError_of_full full, code_runScript_eq_success_iff_of_full full⟩

end Script

/-! ## The prompt -/

section Prompt

variable {surroundings : Surroundings} {showsTokens : Bool}

/-- The result of a run with the prompt. -/
def runPrompt (surroundings : Surroundings) (showsTokens : Bool) : Result :=
  .ofPerformance (surroundings.output.perform do
    let result ← (Session.converse surroundings.input showsTokens).run
    return .ofPrompt result)

theorem runPrompt_eq :
    runPrompt surroundings showsTokens =
      let run := promptRun surroundings showsTokens
      ⟨.ofPrompt run.result, run.accepted, complaint run.result⟩ := by
  rw [runPrompt, Outlet.perform_bind]
  simp only [Outlet.perform_pure, List.append_nil]
  rfl

theorem code_runPrompt_eq_failure_iff :
    (runPrompt surroundings showsTokens).status.code = 1 ↔
      ∃ stop, (promptRun surroundings showsTokens).result = .error stop := by
  rw [runPrompt_eq]
  cases result : (promptRun surroundings showsTokens).result <;>
    simp [ExitStatus.ofPrompt, ExitStatus.code, result]

theorem code_runPrompt_eq_success_iff :
    (runPrompt surroundings showsTokens).status.code = 0 ↔
      (runPrompt surroundings showsTokens).status.code ≠ 1 := by
  rw [runPrompt_eq]
  cases result : (promptRun surroundings showsTokens).result <;>
    simp [ExitStatus.ofPrompt, ExitStatus.code, result]

/-- Standard error has the diagnostic that ended the prompt. -/
theorem complaints_runPrompt_of_code
    (failed : (runPrompt surroundings showsTokens).status.code = 1) :
    ∃ stop diagnostic, (promptRun surroundings showsTokens).result = .error stop ∧
      stop.diagnostic? = some diagnostic ∧
      (runPrompt surroundings showsTokens).complaints = diagnostic.display ++ "\n" := by
  obtain ⟨stop, stopped⟩ := code_runPrompt_eq_failure_iff.mp failed
  obtain ⟨diagnostic, told, complained⟩ :=
    exists_complaint_of_error (Session.failsFatally_prompt _ _ _) stopped
  refine ⟨stop, diagnostic, stopped, told, ?_⟩
  rw [runPrompt_eq]
  exact complained

theorem complaints_runPrompt_of_success
    (succeeded : (runPrompt surroundings showsTokens).status.code = 0) :
    (runPrompt surroundings showsTokens).complaints = "" := by
  cases result : (promptRun surroundings showsTokens).result with
  | ok =>
      rw [runPrompt_eq]
      simp only [result, complaint]
  | error stop =>
      have failed := code_runPrompt_eq_failure_iff.mpr ⟨stop, result⟩
      rw [succeeded] at failed
      contradiction

/-- Where nothing is refused, the prompt fails with the fault that it comes to. -/
theorem result_promptRun_of_unlimited (unlimited : surroundings.output = .unlimited) :
    (∃ stop, (promptRun surroundings showsTokens).result = .error stop) ↔
      surroundings.input.fault ≠ none ∧
        ∀ line ∈ surroundings.input.lines, PromptCommand.ofBytes line ≠ .leave := by
  have ended : (promptRun surroundings showsTokens).result = Session.closingResult
      (Session.faultReached surroundings.input.fault surroundings.input.lines) := by
    rw [promptRun, unlimited, Session.converse, Session.prompt_eq_ofActions,
      Outlet.perform_unlimited]
  have closing (fault : Option String) :
      (∃ stop, Session.closingResult fault = .error stop) ↔ fault ≠ none := by
    cases fault <;> simp [Session.closingResult]
  rw [ended, closing, Session.faultReached, ne_eq, ite_eq_left_iff, Classical.not_imp, and_comm]
  simp

theorem output_runPrompt_of_unlimited (unlimited : surroundings.output = .unlimited) :
    (runPrompt surroundings showsTokens).output =
      Session.promptBytes surroundings.input.lines := by
  rw [runPrompt_eq, promptRun, unlimited]
  exact Session.accepted_prompt (Session.start showsTokens) surroundings.input

/-- The first mark is refused already. -/
theorem result_promptRun_of_full {reason : String} (full : surroundings.output = .full reason) :
    (promptRun surroundings showsTokens).result = .error (.unwritable reason) := by
  have asks : (Session.promptActions surroundings.input).flatMap Action.bytes ≠ [] := by
    rw [Session.bytes_promptActions]
    exact Session.promptBytes_ne_nil _
  rw [promptRun, full, Session.converse, Session.prompt_eq_ofActions, Outlet.result_perform_full,
    if_neg asks]

theorem output_runPrompt_of_full {reason : String} (full : surroundings.output = .full reason) :
    (runPrompt surroundings showsTokens).output = [] := by
  rw [runPrompt, full]
  exact Outlet.accepted_perform_full reason _

theorem tellsPrompt :
    TellsPrompt surroundings showsTokens (runPrompt surroundings showsTokens) where
  failure := code_runPrompt_eq_failure_iff
  success := code_runPrompt_eq_success_iff
  told := complaints_runPrompt_of_code
  silent := complaints_runPrompt_of_success
  shown unlimited := by
    rw [code_runPrompt_eq_failure_iff]
    exact ⟨output_runPrompt_of_unlimited unlimited, result_promptRun_of_unlimited unlimited⟩
  refused reason full :=
    ⟨output_runPrompt_of_full full,
      code_runPrompt_eq_failure_iff.mpr ⟨_, result_promptRun_of_full full⟩⟩

end Prompt

/-! ## The program -/

/-- What a run leaves tells what came of its options. -/
theorem tells_run {surroundings : Surroundings} (options : Options)
    (output : surroundings.output = .unlimited ∨ ∃ reason, surroundings.output = .full reason) :
    Tells surroundings
      (.ofPerformance (surroundings.output.perform
        (run (fun path => pure (surroundings.read path))
          (fun session => (session.prompt surroundings.input).run) (.run options))))
      options := by
  obtain ⟨showsTokens, _ | path⟩ := options
  · exact tellsPrompt
  · exact tellsScript output

/-- However arguments are understood, a run of the program with a script or with the prompt
ends with a status that says what came of it. The output refuses nothing, or it refuses
everything. -/
theorem exit_status_tells_the_truth {understand : List String → Invocation}
    {surroundings : Surroundings} {arguments : List String} {options : Options}
    (accepted : understand arguments = .run options)
    (output : surroundings.output = .unlimited ∨ ∃ reason, surroundings.output = .full reason) :
    Tells surroundings (runProgramWith understand surroundings arguments) options := by
  rw [runProgramWith, accepted]
  exact tells_run options output

/-- So does a run with the arguments as they are understood here. -/
theorem tells_runProgram {surroundings : Surroundings} {arguments : List String}
    {options : Options} (accepted : Invocation.ofArguments arguments = .run options)
    (output : surroundings.output = .unlimited ∨ ∃ reason, surroundings.output = .full reason) :
    Tells surroundings (runProgram surroundings arguments) options := by
  rw [runProgram, runProgramWith, accepted]
  exact tells_run options output

/-- A tree with a script that holds a stray character, and nothing to read for a prompt. -/
def strayScript (output : Outlet) : Surroundings where
  read := (FileTree.empty.write "stray.lox" [64]).read
  input := ⟨[], none⟩
  output := output

theorem exit_status_tells_the_truth_strayScript :
    let shown := runProgram (strayScript .unlimited) ["stray.lox"]
    let refused := strayScript (.full "No space left on device (os error 28)")
    (shown.status.code = 65 ∧ shown.complaints = "") ∧
      (runProgram refused ["stray.lox"]).status.code ≠ 65 ∧
      (runProgram refused []).status.code = 1 := by
  intro shown refused
  have named : Invocation.ofArguments ["stray.lox"] = .run ⟨false, some "stray.lox"⟩ := by
    decide +kernel
  have bare : Invocation.ofArguments [] = .run ⟨false, none⟩ := rfl
  have found : shown.status.code = 65 := by decide +kernel
  have script : Tells (strayScript .unlimited) shown ⟨false, some "stray.lox"⟩ :=
    exit_status_tells_the_truth named (.inl rfl)
  have broken : Tells refused (runProgram refused ["stray.lox"]) ⟨false, some "stray.lox"⟩ :=
    exit_status_tells_the_truth named (.inr ⟨_, rfl⟩)
  have prompt : Tells refused (runProgram refused []) ⟨false, none⟩ :=
    exit_status_tells_the_truth bare (.inr ⟨_, rfl⟩)
  exact ⟨⟨found, script.silent (.inr found)⟩, (broken.refused _ rfl).2.1,
    (prompt.refused _ rfl).2⟩

end CommandLine

end LoxLexer
