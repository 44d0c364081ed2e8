/-
# The prompt

The prompt writes its mark, reads a line and answers it, until the input ends or
a line says to leave. Each line is decoded on its own, lossily, and scanned after
a reset. Its tokens are always written, and the diagnostics of the session are
shown. One line asks for help instead and leaves the diagnostics as they are.

The input may break off with a fault. Then every whole line is still answered;
what was read of the next line is lost, and the prompt ends with the fault.
-/

import LoxLexer.Session.Basic
import LoxLexer.Text.Line

namespace LoxLexer

/-- What a prompt reads from. -/
structure PromptInput where
  bytes : List UInt8
  /-- The reason for which reading fails after them; `none` if the input ends there. -/
  fault : Option String

namespace PromptInput

/-- The lines of the input, each with its line feed. -/
def lines (input : PromptInput) : List (List UInt8) :=
  let pieces := Text.splitAfter 10 input.bytes
  if input.fault.isSome then pieces.filter fun piece => piece.getLast? = some 10 else pieces

end PromptInput

/-- What the prompt finds when it reads. -/
inductive Reading
  | line (bytes : List UInt8)
  /-- There is no other line, because the input ends or because reading fails. -/
  | ended (fault : Option String)

/-- What a line of input asks for. -/
inductive PromptCommand
  | leave
  | help
  | scan (line : String)
  deriving DecidableEq

namespace PromptCommand

/-- A text without the given character at its end, once. -/
def dropEnding (ending : Char) (text : List Char) : List Char :=
  if text.getLast? = some ending then text.dropLast else text

/-- The text of a line, without its line feed and then a carriage return. -/
def lineText (bytes : List UInt8) : String :=
  String.ofList (dropEnding '\r' (dropEnding '\n' (Text.Utf8.decodeLossy bytes)))

/-- What a text asks for. -/
def ofText (text : String) : PromptCommand :=
  if text = "exit" then .leave else if text = "help" then .help else .scan text

/-- What a line of bytes asks for. -/
def ofBytes (bytes : List UInt8) : PromptCommand := ofText (lineText bytes)

end PromptCommand

namespace Session

/-- The mark that asks for a line. -/
def promptMark : String := "> "

/-- What help has to say. -/
def helpAnswer : String := "No help from here.. YET!"

/-- Scans a line, writes its tokens and shows the diagnostics. -/
def answerLine (session : Session) (line : String) : Procedure Session := do
  let (scan, scanned) ← session.reset.scan line none
  writeTokens scan.tokens
  scanned.showDiagnostics line
  return scanned

/-- Answers a line of bytes. The result is the session that goes on, or `none`
if the line says to leave. -/
def answer (session : Session) (line : List UInt8) : Procedure (Option Session) :=
  match PromptCommand.ofBytes line with
  | .leave => return none
  | .help => do
    .writeLine helpAnswer
    return some session
  | .scan text => do
    let scanned ← session.answerLine text
    return some scanned

/-- Closes the prompt, or fails if there is a fault. -/
def closePrompt : Option String → Procedure Unit
  | none => .log .promptClosed
  | some reason => .stop (.failed (.placeless (.transfer reason)))

/-- Answers what was read. The result is the session that goes on, or `none` if the
prompt is closed. -/
def respond (session : Session) : Reading → Procedure (Option Session)
  | .line bytes => do
    match ← session.answer bytes with
    | some scanned => return some scanned
    | none => do
      closePrompt none
      return none
  | .ended fault => do
    closePrompt fault
    return none

/-- One turn of the prompt: it asks for a line, reads and answers. It is the same
wherever lines are read from. -/
def turn {m : Type → Type} [Monad m] [MonadLiftT Procedure m] (session : Session)
    (read : m Reading) : m (Option Session) := do
  let _ ← Procedure.write promptMark
  let reading ← read
  session.respond reading

/-- Takes turns on given lines until one says to leave. After the last line the prompt
asks once more and finds the end of the input or the fault. -/
def answerLines (fault : Option String) : Session → List (List UInt8) → Procedure Unit
  | session, [] => do
    let _ ← session.turn (pure (.ended fault))
  | session, line :: later => do
    match ← session.turn (pure (.line line)) with
    | some scanned => answerLines fault scanned later
    | none => return ()

/-- Runs the prompt of a session on an input. -/
def prompt (session : Session) (input : PromptInput) : Procedure Unit :=
  answerLines input.fault session input.lines

/-- Runs the prompt of a new session on an input. -/
def converse (input : PromptInput) (showsTokens : Bool := false) : Procedure Unit :=
  (start showsTokens).prompt input

end Session

end LoxLexer
