/-
# Tokens

A token is a stretch of the source with its kind and, for strings and numbers,
the value that it stands for. A token is valid when its line is at least one and
its lexeme is not blank; the end of the file alone may have a blank lexeme.
-/

import LoxLexer.Diagnostic.Basic
import LoxLexer.Number.Notation
import LoxLexer.Text.Characters
import LoxLexer.Token.Kind

namespace LoxLexer

/-- The value of a string or number token. -/
inductive Literal
  | string (text : String)
  | number (value : Number.Binary64)
  deriving DecidableEq

/-- A literal's display: a string stands as it is. -/
def Literal.display : Literal → String
  | string text => text
  | number value => value.display

/-- One lexical unit of a source. -/
structure Token where
  kind : TokenKind
  lexeme : String
  literal : Option Literal
  /-- The line on which the token begins, counted from one. -/
  line : Nat
  span : Span
  deriving DecidableEq

/-- The ways in which a token can be invalid. -/
inductive TokenFault
  | noLine
  /-- The lexeme is blank though the kind is not the end of the file. -/
  | blankLexeme (kind : TokenKind)

/-- The reason why a token with the fault is rejected. -/
def TokenFault.reason : TokenFault → String
  | noLine => "line must be at least 1, got 0"
  | blankLexeme kind => kind.name ++ " token needs a non-blank lexeme"

namespace Token

/-- Is this the end of the file? -/
def isEndOfFile (token : Token) : Bool := token.kind = .endOfFile

/-- The first fault of a token; the line is looked at before the lexeme. -/
def fault? (token : Token) : Option TokenFault :=
  if token.line = 0 then some .noLine
  else if !token.isEndOfFile && Text.isBlank token.lexeme.toList then
    some (.blankLexeme token.kind)
  else none

/-- The token, if it is valid, and else the diagnostic that rejects it at its beginning. -/
def validate (token : Token) : Except Diagnostic Token :=
  match token.fault? with
  | none => .ok token
  | some fault => .error ⟨.invalidToken fault.reason, token.span.startPosition, token.line⟩

/-- A token's display: kind, lexeme and literal with one space between them. -/
def display (token : Token) : String :=
  token.kind.name ++ " " ++ token.lexeme ++ " " ++ (token.literal.map Literal.display).getD "null"

end Token

end LoxLexer
