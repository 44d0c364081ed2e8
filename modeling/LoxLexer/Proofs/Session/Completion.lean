/-
# Operations of a session come to their end

What is shown after a reset are the diagnostics of the text that was scanned, and
these can be shown against it. So scanning a file that was read and answering a
line stop by themselves at no point, and their actions are those of the text.
-/

import LoxLexer.Proofs.Diagnostic.Snippet
import LoxLexer.Proofs.Scan.Reported
import LoxLexer.Session.Basic
import LoxLexer.Session.Prompt

namespace LoxLexer

open Procedure

/-- A diagnostic of a scan is shown without a stop. -/
theorem Scan.render_eq_ofLines {source : String} {file : Option String}
    {diagnostic : Diagnostic} (member : diagnostic ∈ (ofText source file).diagnostics) :
    diagnostic.render source.toList = ofLines (diagnostic.shownLines source.toList) (.ok ()) := by
  obtain ⟨before, later, whole, offset, -⟩ := exists_cut_of_mem_diagnostics member
  rw [whole, Diagnostic.render_append offset, Diagnostic.shownLines_append offset]

namespace Session

/-- The session that has the diagnostics of one text and no others. -/
def scanned (session : Session) (source : String) (file : Option String) : Session :=
  { session with diagnostics := ⟨(Scan.ofText source file).diagnostics⟩ }

/-- What scanning a text after a reset does. -/
def scanActions (source : String) (file : Option String) : List Action :=
  let scan := Scan.ofText source file
  scan.events.map .log ++ [.retain ⟨scan.diagnostics⟩]

/-- What writing tokens does. -/
def tokenActions (tokens : List Token) : List Action :=
  tokens.map fun token => .write (token.display ++ "\n")

/-- What showing diagnostics does. -/
def diagnosticActions (diagnostics : List Diagnostic) (source : String) : List Action :=
  diagnostics.flatMap fun diagnostic =>
    .log (.writingDiagnostic diagnostic) ::
      (diagnostic.shownLines source.toList).map fun line => .write (line ++ "\n")

/-- Scanning logs the events of the scan and leaves what the session has behind it. -/
theorem scan_eq_done (session : Session) (source : String) (file : Option String) :
    session.scan source file =
      done ((Scan.ofText source file).events.map .log ++
          [.retain (session.run source file).2.diagnostics])
        (session.run source file) := by
  have logged : forEach (Scan.ofText source file).events log =
      done ((Scan.ofText source file).events.map .log) () := by
    rw [forEach_eq_done fun event _ => log_eq_done event, List.map_eq_flatMap]
  simp only [scan, run, logged]
  exact done_bind_of_eq rfl

theorem reset_scan (session : Session) (source : String) (file : Option String) :
    session.reset.scan source file =
      done (scanActions source file) (Scan.ofText source file, session.scanned source file) :=
  scan_eq_done session.reset source file

theorem writeTokens_eq_done (tokens : List Token) :
    writeTokens tokens = done (tokenActions tokens) () := by
  rw [writeTokens, forEach_eq_done fun token _ => writeLine_eq_done token.display, tokenActions,
    List.map_eq_flatMap]

theorem showDiagnostics_scanned (session : Session) (source : String) (file : Option String) :
    (session.scanned source file).showDiagnostics source =
      done (diagnosticActions (Scan.ofText source file).diagnostics source) () := by
  apply forEach_eq_done
  intro diagnostic member
  rw [Scan.render_eq_ofLines member]
  rfl

/-! ## Files -/

/-- What is known after a text was scanned on its own. -/
def reportOf (source : String) (file : Option String) : FileReport :=
  let scan := Scan.ofText source file
  { tokens := scan.tokens, hasErrors := !scan.diagnostics.isEmpty }

/-- What scanning a file that was read does. -/
def fileActions (showsTokens : Bool) (path source : String) : List Action :=
  let scan := Scan.ofText source (fileName? path)
  scanActions source (fileName? path) ++
    ((if showsTokens then tokenActions scan.tokens else []) ++
      (diagnosticActions scan.diagnostics source ++
        [.log (.fileFinished path scan.tokens.length scan.diagnostics.length)]))

theorem scanFile_ok (session : Session) (path source : String) :
    session.scanFile path (.ok source) =
      done (fileActions session.showsTokens path source)
        (reportOf source (fileName? path)) := by
  have shown := showDiagnostics_scanned session source (fileName? path)
  simp only [scanFile, reset_scan]
  apply done_bind_of_eq
  cases session.showsTokens with
  | false =>
      rw [if_neg Bool.false_ne_true, shown]
      exact done_bind_of_eq rfl
  | true =>
      rw [if_pos rfl, shown, writeTokens_eq_done]
      exact done_bind_of_eq (done_bind_of_eq rfl)

/-- A file that cannot be read is refused before anything else, and a file that was read goes
on to its first refused text. -/
theorem stopsWhenRefused_scanFile (session : Session) (path : String)
    (content : Except ReadFault String) : (session.scanFile path content).StopsWhenRefused := by
  cases content with
  | error fault => exact ⟨[], _, rfl⟩
  | ok source => exact ⟨_, _, scanFile_ok session path source⟩

theorem notice_eq_done (report : FileReport) :
    report.notice =
      done (if report.hasErrors then [.write (FileReport.noticeText ++ "\n")] else []) () := by
  unfold FileReport.notice
  split
  · exact writeLine_eq_done FileReport.noticeText
  · rfl

/-! ## Lines of the prompt -/

/-- What answering a line does. -/
def lineActions (line : String) : List Action :=
  let scan := Scan.ofText line none
  scanActions line none ++ (tokenActions scan.tokens ++ diagnosticActions scan.diagnostics line)

theorem answerLine_eq_done (session : Session) (line : String) :
    session.answerLine line = done (lineActions line) (session.scanned line none) := by
  have shown := showDiagnostics_scanned session line none
  simp only [answerLine, reset_scan]
  apply done_bind_of_eq
  rw [writeTokens_eq_done]
  apply done_bind_of_eq
  rw [shown]
  exact done_bind_pure ..

/-- What a command does in the prompt. -/
def commandActions : PromptCommand → List Action
  | .leave => []
  | .help => [.write (helpAnswer ++ "\n")]
  | .scan text => lineActions text

/-- The session that goes on after a command. -/
def next? (session : Session) : PromptCommand → Option Session
  | .leave => none
  | .help => some session
  | .scan text => some (session.scanned text none)

theorem answer_eq_done (session : Session) (line : List UInt8) :
    session.answer line =
      done (commandActions (.ofBytes line)) (session.next? (.ofBytes line)) := by
  unfold answer
  cases PromptCommand.ofBytes line with
  | leave => rfl
  | help => rfl
  | scan text =>
      simp only [answerLine_eq_done]
      exact done_bind_pure ..

/-! ## The whole prompt -/

/-- The lines that are answered: those before the first one that says to leave. -/
def answered (lines : List (List UInt8)) : List (List UInt8) :=
  lines.takeWhile fun line => PromptCommand.ofBytes line ≠ .leave

theorem answered_eq_self_iff {lines : List (List UInt8)} :
    answered lines = lines ↔ ∀ line ∈ lines, PromptCommand.ofBytes line ≠ .leave := by
  simp [answered]

/-- The fault that the prompt comes to, if no line says to leave before. -/
def faultReached (fault : Option String) (lines : List (List UInt8)) : Option String :=
  if lines.any fun line => PromptCommand.ofBytes line = .leave then none else fault

/-- Asking for a line and answering it. -/
def turnActions (line : List UInt8) : List Action :=
  .write promptMark :: commandActions (.ofBytes line)

/-- Asking for a line when there is none. -/
def closingActions : Option String → List Action
  | none => [.write promptMark, .log .promptClosed]
  | some _ => [.write promptMark]

/-- How the prompt ends when there is no line. -/
def closingResult : Option String → Except Stop Unit
  | none => .ok ()
  | some reason => .error (.failed (.placeless (.transfer reason)))

theorem exists_next (session : Session) {command : PromptCommand} (stays : command ≠ .leave) :
    ∃ next, session.next? command = some next := by
  cases command with
  | leave => contradiction
  | help => exact ⟨_, rfl⟩
  | scan text => exact ⟨_, rfl⟩

/-- In a turn the mark is written, and what is read is responded to. -/
theorem turn_pure_bind {α : Type} (session : Session) (reading : Reading)
    (next : Option Session → Procedure α) :
    session.turn (pure reading : Procedure Reading) >>= next =
      write promptMark >>= fun _ => session.respond reading >>= next :=
  bind_assoc ..

/-- The prompt asks once more and closes. -/
theorem answerLines_nil (fault : Option String) (session : Session) :
    answerLines fault session [] = ofActions (closingResult fault) (closingActions fault) := by
  rw [answerLines, turn_pure_bind]
  cases fault <;> rfl

/-- A line that says to leave closes the prompt. -/
theorem answerLines_leave {line : List UInt8} (leaves : PromptCommand.ofBytes line = .leave)
    (fault : Option String) (session : Session) (later : List (List UInt8)) :
    answerLines fault session (line :: later) =
      ofActions (closingResult none) (closingActions none) := by
  have answer : session.answer line = done [] none := by
    rw [answer_eq_done, leaves]
    rfl
  rw [answerLines, turn_pure_bind, respond.eq_def]
  simp only [answer]
  rfl

/-- After any other line the prompt goes on with the session that the line leaves. -/
theorem answerLines_stay {session next : Session} {line : List UInt8}
    (goesOn : session.next? (.ofBytes line) = some next) (fault : Option String)
    (later : List (List UInt8)) :
    answerLines fault session (line :: later) =
      done (turnActions line) () >>= fun _ => answerLines fault next later := by
  have respond : session.respond (.line line) =
      done (commandActions (.ofBytes line)) (some next) := by
    rw [respond.eq_def]
    simp only [answer_eq_done, goesOn]
    exact (done_bind ..).trans (done_bind_pure _ () fun _ => some next)
  rw [answerLines, turn_pure_bind, respond, turnActions, done_cons_bind]
  exact bind_congr fun _ => done_bind ..

/-- The prompt answers one line after another and asks once more. Nothing of the
session it started in is left in this. -/
theorem answerLines_eq (fault : Option String) (session : Session) (lines : List (List UInt8)) :
    answerLines fault session lines =
      ofActions (closingResult (faultReached fault lines))
        ((answered lines).flatMap turnActions ++ closingActions (faultReached fault lines)) := by
  induction lines generalizing session with
  | nil => exact answerLines_nil fault session
  | cons line later ih =>
      by_cases leaves : PromptCommand.ofBytes line = .leave
      · have noneAnswered : answered (line :: later) = [] := by simp [answered, leaves]
        have noFault : faultReached fault (line :: later) = none := by simp [faultReached, leaves]
        rw [noneAnswered, noFault, answerLines_leave leaves]
        rfl
      · obtain ⟨next, goesOn⟩ := exists_next session leaves
        have moreAnswered : answered (line :: later) = line :: answered later := by
          simp [answered, leaves]
        have sameFault : faultReached fault (line :: later) = faultReached fault later := by
          simp [faultReached, leaves]
        rw [moreAnswered, sameFault, answerLines_stay goesOn, List.flatMap_cons,
          List.append_assoc]
        exact done_bind_of_eq (ih next)

/-- What the prompt does on an input. -/
def promptActions (input : PromptInput) : List Action :=
  (answered input.lines).flatMap turnActions ++
    closingActions (faultReached input.fault input.lines)

theorem prompt_eq_ofActions (session : Session) (input : PromptInput) :
    session.prompt input =
      ofActions (closingResult (faultReached input.fault input.lines)) (promptActions input) :=
  answerLines_eq input.fault session input.lines

theorem stopsWhenRefused_prompt (session : Session) (input : PromptInput) :
    (session.prompt input).StopsWhenRefused :=
  ⟨_, _, prompt_eq_ofActions session input⟩

/-- An input that ends without a fault lets the prompt end. -/
theorem result_prompt (session : Session) (bytes : List UInt8) :
    (Outlet.unlimited.perform (session.prompt ⟨bytes, none⟩)).result = .ok () := by
  have unbroken (lines : List (List UInt8)) : faultReached none lines = none := ite_self none
  rw [prompt_eq_ofActions, Outlet.perform_unlimited, unbroken]
  rfl

/-! ## What is left behind -/

@[simp] theorem retained_scanActions (source : String) (file : Option String) :
    (scanActions source file).filterMap Action.retained? =
      [⟨(Scan.ofText source file).diagnostics⟩] := by
  simp [scanActions, Action.retained?, Function.comp_def]

@[simp] theorem retained_tokenActions (tokens : List Token) :
    (tokenActions tokens).filterMap Action.retained? = [] := by
  simp [tokenActions, Action.retained?, Function.comp_def]

@[simp] theorem retained_diagnosticActions (diagnostics : List Diagnostic) (source : String) :
    (diagnosticActions diagnostics source).filterMap Action.retained? = [] := by
  rw [List.filterMap_eq_nil_iff]
  intro action member
  obtain ⟨diagnostic, -, stands⟩ := List.mem_flatMap.mp member
  obtain rfl | shown := List.mem_cons.mp stands
  · rfl
  · obtain ⟨line, -, rfl⟩ := List.mem_map.mp shown
    rfl

/-- Scanning after a reset writes nothing and leaves the diagnostics of the text
behind. They stay at any outlet, whatever is written afterwards. -/
theorem after_perform_scanActions {α : Type} (session : Session) (source : String)
    (file : Option String) {later : List Action}
    (silent : later.filterMap Action.retained? = []) (value : α) (outlet : Outlet) :
    session.after (outlet.perform (done (scanActions source file ++ later) value)) =
      session.scanned source file := by
  have unwritten : ∀ action ∈ scanActions source file, action.bytes = [] := by
    intro action member
    rcases List.mem_append.mp member with logged | retained
    · obtain ⟨event, -, rfl⟩ := List.mem_map.mp logged
      rfl
    · obtain rfl := List.mem_singleton.mp retained
      rfl
  have retained : (outlet.perform (done (scanActions source file ++ later) value)).retained =
      some ⟨(Scan.ofText source file).diagnostics⟩ := by
    rw [done, Outlet.retained_perform_append _ unwritten,
      Outlet.retained_perform_eq_none _ (List.filterMap_eq_nil_iff.mp silent),
      retained_scanActions]
    rfl
  rw [after, retained]
  rfl

theorem after_scanFile (session : Session) (path source : String) (outlet : Outlet) :
    session.after (outlet.perform (session.scanFile path (.ok source))) =
      session.scanned source (fileName? path) := by
  rw [scanFile_ok]
  apply after_perform_scanActions
  cases session.showsTokens <;> simp [Action.retained?]

theorem after_answerLine (session : Session) (line : String) (outlet : Outlet) :
    session.after (outlet.perform (session.answerLine line)) = session.scanned line none := by
  rw [answerLine_eq_done]
  apply after_perform_scanActions
  simp

end Session

end LoxLexer
