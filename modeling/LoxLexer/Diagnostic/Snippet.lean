/-
# Diagnostics shown against their source

A diagnostic is shown by its one-line form with the tip, the name of its source,
an empty gutter, the source line without its indentation and a caret below the
character. Only the first of these is shown when the offset is beyond the end
of the source. Between the gutter and the caret stands one mark per character
of the source line; a tab stays a tab, so that the caret keeps its column.
-/

import LoxLexer.Text.Line
import LoxLexer.Text.Characters
import LoxLexer.Interaction.Basic

namespace LoxLexer

/-- The one-line form of a diagnostic with its tip, if it has one, in parentheses. -/
def Diagnostic.header (diagnostic : Diagnostic) : String :=
  match diagnostic.cause.tip? with
  | none => diagnostic.display
  | some tip => diagnostic.display ++ " (" ++ tip ++ ")"

namespace Snippet

/-- Is the character part of an indentation? -/
def isIndentation (character : Char) : Bool := character = ' ' || character = '\t'

/-- The bar of the gutter, in the column after a line number and a space. -/
def gutter (number : Nat) : String :=
  String.ofList (List.replicate (number.repr.length + 1) ' ' ++ ['|'])

/-- The number and the text of a line, without indentation and trailing white space. -/
def sourceLine (spot : Text.LineSpot) : String :=
  spot.number.repr ++ " | " ++
    String.ofList (Text.trimEnd (spot.text.dropWhile isIndentation))

/-- The mark below one character. -/
def mark (character : Char) : Char := if character = '\t' then '\t' else '-'

/-- The marks from the end of the indentation to the spot. There are none when
the spot is in the indentation, and no answer when it is inside a character. -/
def marks? (spot : Text.LineSpot) : Option (List Char) :=
  (Text.splitAtByte? spot.column spot.text).map fun (before, _) =>
    (before.drop (spot.text.takeWhile isIndentation).length).map mark

/-- The line with the caret. -/
def caretLine (number : Nat) (marks : List Char) : String :=
  gutter number ++ " " ++ String.ofList marks ++ "^"

/-- The lines that show a spot of the named source. -/
def excerpt (file : String) (spot : Text.LineSpot) : Procedure Unit := do
  .writeLine ("-> " ++ file)
  .writeLine (gutter spot.number)
  .writeLine (sourceLine spot)
  match marks? spot with
  | some marks => .writeLine (caretLine spot.number marks)
  | none => .stop .insideCharacter

end Snippet

/-- Shows a diagnostic against its source. -/
def Diagnostic.render (diagnostic : Diagnostic) (source : List Char) : Procedure Unit := do
  .writeLine diagnostic.header
  match Text.locate source diagnostic.position.offset with
  | none => pure ()
  | some spot => Snippet.excerpt diagnostic.position.file spot

end LoxLexer
