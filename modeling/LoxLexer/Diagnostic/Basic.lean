/-
# Diagnostics and the event log

A diagnostic is a cause with the position and the line it belongs to. Line zero
says that it belongs to no line of a source. Lexical causes are what a scan
finds wrong and recovers from; every other cause ends the operation it arises
in.

A position is a byte offset in a named source. A span reaches from one offset of
a source up to another one, which it does not include. A collection keeps
diagnostics in the order in which they were reported, until it is reset or taken.

Scanning, finishing with a file and closing a prompt are told as events, in the
order in which they happen.
-/

import LoxLexer.Text.Characters
import LoxLexer.Token.Kind

namespace LoxLexer

/-! ## Positions and spans -/

/-- A byte offset in a named source. -/
structure Position where
  offset : Nat
  file : String
  deriving DecidableEq

/-- The position of what happens in no source. -/
def Position.nowhere : Position := ⟨0, "<null>"⟩

/-- A stretch of a named source. -/
structure Span where
  file : String
  start : Nat
  /-- The offset after the last byte. -/
  stop : Nat
  deriving DecidableEq

/-- The position at which a span begins. -/
def Span.startPosition (span : Span) : Position := ⟨span.start, span.file⟩

/-! ## Causes and diagnostics -/

/-- What went wrong. -/
inductive Cause
  | unexpectedCharacter (character : Char)
  | unterminatedString
  /-- A numeral that denotes no number. -/
  | malformedNumber (numeral : String)
  /-- A token that breaks a rule for tokens. -/
  | invalidToken (reason : String)
  | unreadableFile (path reason : String)
  | transfer (reason : String)
  deriving DecidableEq

namespace Cause

/-- The name of the kind of cause. -/
def name : Cause → String
  | unexpectedCharacter _ => "UnexpectedCharacter"
  | unterminatedString => "UnterminatedString"
  | malformedNumber _ => "NumberParseError"
  | invalidToken _ => "InvalidToken"
  | unreadableFile .. => "UnreadableFile"
  | transfer _ => "Io"

/-- The message of a cause. Characters, numerals and paths are quoted in it;
reasons stand as they are. -/
def message : Cause → String
  | unexpectedCharacter character => "Unexpected character " ++ Text.quotedCharacter character
  | unterminatedString => "Unterminated string"
  | malformedNumber numeral => "error parsing number: " ++ Text.quotedString numeral
  | invalidToken reason => "invalid token: " ++ reason
  | unreadableFile path reason => "could not read " ++ Text.quotedString path ++ ": " ++ reason
  | transfer reason => "i/o error: " ++ reason

/-- Advice on how to mend a cause, where there is any. -/
def tip? : Cause → Option String
  | unexpectedCharacter character =>
    some ("\x60" ++ String.singleton character ++
      "\x60 is not part of the language, remove it or put it inside a string")
  | unterminatedString => some "add a closing \x60\"\x60 to the string"
  | malformedNumber numeral =>
    some ("Invalid number: \x60" ++ numeral ++ "\x60, is it a valid decimal literal?")
  | invalidToken _ => none
  | unreadableFile .. => some "check that the file exists and is readable"
  | transfer _ => none

/-- Is this a cause that a scan finds and recovers from? -/
def isLexical : Cause → Bool
  | unexpectedCharacter _ | unterminatedString | malformedNumber _ => true
  | invalidToken _ | unreadableFile .. | transfer _ => false

end Cause

/-- A cause at its place. -/
structure Diagnostic where
  cause : Cause
  position : Position
  /-- The line, counted from one, or zero for no line. -/
  line : Nat
  deriving DecidableEq

namespace Diagnostic

/-- A diagnostic that belongs to no place in a source. -/
def placeless (cause : Cause) : Diagnostic := ⟨cause, .nowhere, 0⟩

/-- The one-line form of a diagnostic. -/
def display (diagnostic : Diagnostic) : String :=
  if diagnostic.line = 0 then "Error: " ++ diagnostic.cause.message
  else "[line " ++ diagnostic.line.repr ++ "] Error: " ++ diagnostic.cause.message

end Diagnostic

/-! ## Collected diagnostics -/

/-- Diagnostics in the order of their reports. -/
structure Diagnostics where
  /-- What was reported, the earliest report first. -/
  reported : List Diagnostic
  deriving DecidableEq

namespace Diagnostics

/-- The collection without reports. -/
def empty : Diagnostics := ⟨[]⟩

/-- Reports a diagnostic after all others. -/
def report (diagnostics : Diagnostics) (diagnostic : Diagnostic) : Diagnostics :=
  ⟨diagnostics.reported ++ [diagnostic]⟩

/-- Reports several diagnostics in their order. -/
def reportAll (diagnostics : Diagnostics) (found : List Diagnostic) : Diagnostics :=
  ⟨diagnostics.reported ++ found⟩

/-- Hands out what was reported and leaves an empty collection. -/
def take (diagnostics : Diagnostics) : List Diagnostic × Diagnostics :=
  (diagnostics.reported, empty)

/-- Was anything reported? -/
def hasErrors (diagnostics : Diagnostics) : Bool := !diagnostics.reported.isEmpty

end Diagnostics

/-! ## Events -/

/-- How much an event matters. -/
inductive Level
  | trace | debug | warning
  deriving DecidableEq

/-- The name of a level. -/
def Level.name : Level → String
  | trace => "TRACE"
  | debug => "DEBUG"
  | warning => "WARN"

/-- Something that happened. -/
inductive Event
  | token (kind : TokenKind) (lexeme : String) (line : Nat)
  /-- A comment was skipped; its text begins with the slashes. -/
  | skippedComment (line : Nat) (comment : String)
  | reported (file : String) (diagnostic : Diagnostic)
  /-- A scan ended on the given line after so many tokens and diagnostics. -/
  | scanFinished (file : String) (tokens errors lines : Nat)
  | writingDiagnostic (diagnostic : Diagnostic)
  /-- A file was scanned and shown, with so many tokens and diagnostics. -/
  | fileFinished (path : String) (tokens errors : Nat)
  | promptClosed
  deriving DecidableEq

namespace Event

/-- How much an event matters. -/
def level : Event → Level
  | token .. | skippedComment .. => .trace
  | reported .. => .warning
  | scanFinished .. | writingDiagnostic _ | fileFinished .. | promptClosed => .debug

/-- The message of an event. -/
def message : Event → String
  | token .. => "token"
  | skippedComment .. => "skipped comment"
  | reported _ diagnostic => diagnostic.display
  | scanFinished .. => "scan finished"
  | writingDiagnostic _ => "writing diagnostic"
  | fileFinished .. => "file run finished"
  | promptClosed => "prompt closed"

end Event

end LoxLexer
