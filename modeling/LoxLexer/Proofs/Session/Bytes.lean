/-
# What a session writes

The bytes of a file and of a line of the prompt are those of their tokens, one
line for each, and of their own diagnostics. They are the same in every session,
but for the tokens of a file, which are written only if the session shows them.
-/

import LoxLexer.Proofs.Session.Completion

namespace LoxLexer.Session

open Procedure

/-- The lines of tokens. -/
def tokenBytes (tokens : List Token) : List UInt8 :=
  tokens.flatMap fun token => Text.Utf8.encode (token.display ++ "\n").toList

/-- What is written when diagnostics are shown one after another. -/
def diagnosticBytes (diagnostics : List Diagnostic) (source : String) : List UInt8 :=
  diagnostics.flatMap fun diagnostic =>
    (Outlet.unlimited.perform (diagnostic.render source.toList)).accepted

/-- What the prompt replies to a command. -/
def replyBytes : PromptCommand → List UInt8
  | .leave => []
  | .help => Text.Utf8.encode (helpAnswer ++ "\n").toList
  | .scan text =>
    let scan := Scan.ofText text none
    tokenBytes scan.tokens ++ diagnosticBytes scan.diagnostics text

/-- What the prompt writes: its mark and a reply for each line that is answered,
and the mark once more. -/
def promptBytes (lines : List (List UInt8)) : List UInt8 :=
  ((answered lines).flatMap fun line =>
    Text.Utf8.encode promptMark.toList ++ replyBytes (.ofBytes line)) ++
    Text.Utf8.encode promptMark.toList

/-! ## Bytes of actions -/

theorem bytes_scanActions (source : String) (file : Option String) :
    (scanActions source file).flatMap Action.bytes = [] := by
  simp [scanActions, Action.bytes, List.flatMap_map]

theorem bytes_tokenActions (tokens : List Token) :
    (tokenActions tokens).flatMap Action.bytes = tokenBytes tokens := by
  rw [tokenActions, List.flatMap_map]
  rfl

theorem bytes_diagnosticActions (diagnostics : List Diagnostic) (source : String) :
    (diagnosticActions diagnostics source).flatMap Action.bytes =
      diagnosticBytes diagnostics source := by
  rw [diagnosticActions, List.flatMap_assoc]
  apply List.flatMap_congr
  intro diagnostic _
  rw [Diagnostic.accepted_render, ← bytes_writeLines]
  rfl

theorem bytes_lineActions (line : String) :
    (lineActions line).flatMap Action.bytes = replyBytes (.scan line) := by
  simp only [lineActions, List.flatMap_append, bytes_scanActions, bytes_tokenActions,
    bytes_diagnosticActions, List.nil_append]
  rfl

theorem bytes_commandActions (command : PromptCommand) :
    (commandActions command).flatMap Action.bytes = replyBytes command := by
  cases command with
  | leave => rfl
  | help => exact List.append_nil _
  | scan text => exact bytes_lineActions text

theorem bytes_fileActions (showsTokens : Bool) (path source : String) :
    (fileActions showsTokens path source).flatMap Action.bytes =
      (if showsTokens then tokenBytes (Scan.ofText source (fileName? path)).tokens
        else []) ++ diagnosticBytes (Scan.ofText source (fileName? path)).diagnostics source := by
  simp only [fileActions, List.flatMap_append, bytes_scanActions, bytes_diagnosticActions]
  cases showsTokens <;> simp [bytes_tokenActions, Action.bytes]

theorem bytes_turnActions (line : List UInt8) :
    (turnActions line).flatMap Action.bytes =
      Text.Utf8.encode promptMark.toList ++ replyBytes (.ofBytes line) := by
  rw [turnActions, List.flatMap_cons, bytes_commandActions]
  rfl

theorem bytes_closingActions (fault : Option String) :
    (closingActions fault).flatMap Action.bytes = Text.Utf8.encode promptMark.toList := by
  cases fault <;> exact List.append_nil _

theorem bytes_promptActions (input : PromptInput) :
    (promptActions input).flatMap Action.bytes = promptBytes input.lines := by
  simp only [promptActions, List.flatMap_append, List.flatMap_assoc, bytes_turnActions,
    bytes_closingActions, promptBytes]

/-! ## Bytes of operations -/

theorem accepted_scanFile (session : Session) (path source : String) :
    (Outlet.unlimited.perform (session.scanFile path (.ok source))).accepted =
      (if session.showsTokens then tokenBytes (Scan.ofText source (fileName? path)).tokens
        else []) ++ diagnosticBytes (Scan.ofText source (fileName? path)).diagnostics source := by
  rw [scanFile_ok, done, Outlet.perform_unlimited, bytes_fileActions]

theorem accepted_answerLine (session : Session) (line : String) :
    (Outlet.unlimited.perform (session.answerLine line)).accepted = replyBytes (.scan line) := by
  rw [answerLine_eq_done, done, Outlet.perform_unlimited]
  exact bytes_lineActions line

theorem accepted_prompt (session : Session) (input : PromptInput) :
    (Outlet.unlimited.perform (session.prompt input)).accepted = promptBytes input.lines := by
  rw [prompt_eq_ofActions, Outlet.perform_unlimited, bytes_promptActions]

/-! ## Operations that write something -/

theorem tokenBytes_eq_nil_iff {tokens : List Token} : tokenBytes tokens = [] ↔ tokens = [] := by
  rw [tokenBytes, List.flatMap_eq_nil_iff, List.eq_nil_iff_forall_not_mem]
  exact forall₂_congr fun token _ => iff_false_intro (encode_line_ne_nil token.display)

/-- A diagnostic is shown by one line at least. -/
theorem accepted_render_ne_nil (diagnostic : Diagnostic) (source : List Char) :
    (Outlet.unlimited.perform (diagnostic.render source)).accepted ≠ [] := by
  rw [Diagnostic.accepted_render]
  exact lineBytes_ne_nil (diagnostic.shownLines_ne_nil source)

theorem diagnosticBytes_eq_nil_iff {diagnostics : List Diagnostic} {source : String} :
    diagnosticBytes diagnostics source = [] ↔ diagnostics = [] := by
  rw [diagnosticBytes, List.flatMap_eq_nil_iff, List.eq_nil_iff_forall_not_mem]
  exact forall₂_congr fun diagnostic _ =>
    iff_false_intro (accepted_render_ne_nil diagnostic source.toList)

/-- Of a file nothing is written only if no tokens are shown and nothing is wrong. -/
theorem bytes_fileActions_eq_nil_iff {showsTokens : Bool} {path source : String} :
    (fileActions showsTokens path source).flatMap Action.bytes = [] ↔
      showsTokens = false ∧ (Scan.ofText source (fileName? path)).diagnostics = [] := by
  have found : (Scan.ofText source (fileName? path)).tokens ≠ [] := by
    obtain ⟨segments, division⟩ := Division.exists_division source.toList
    rw [Scan.ofText, Scan.tokens_ofSource division]
    exact List.concat_ne_nil _ _
  rw [bytes_fileActions, List.append_eq_nil_iff, diagnosticBytes_eq_nil_iff]
  cases showsTokens <;> simp [tokenBytes_eq_nil_iff, found]

/-- A prompt always asks for something. -/
theorem promptBytes_ne_nil (lines : List (List UInt8)) : promptBytes lines ≠ [] :=
  List.append_ne_nil_of_right_ne_nil _ (by decide)

end LoxLexer.Session
