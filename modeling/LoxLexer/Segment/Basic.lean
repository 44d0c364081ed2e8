/-
# Segments of a source

A source text is divided into segments. Some are the texts of tokens, some are
skipped in silence and some are wrong. Each form of segment determines its text.

The first character of a text decides the form of its first segment, up to a
look at the next character for a comment and for the symbols of two characters.
Within its form a segment is as long as it can be. Cutting off the first segment
again and again divides the whole text.
-/

import LoxLexer.Number.Binary64
import LoxLexer.Token.Kind

namespace LoxLexer

/-- A piece of a source text, by its form. -/
inductive Segment
  /-- One space, tab, carriage return or line feed. -/
  | blank (character : Char)
  /-- Two slashes and what follows them on the line. -/
  | comment (remark : List Char)
  /-- An operator or punctuation mark. -/
  | symbol (symbol : Symbol)
  /-- A text between two quotation marks. -/
  | string (content : List Char)
  /-- A number literal. -/
  | number (numeral : Number.Numeral)
  /-- A name or reserved word. -/
  | word (letters : List Char)
  /-- A character that none of the other forms begins with. -/
  | stray (character : Char)
  /-- A quotation mark that is never closed and what follows it. -/
  | openString (content : List Char)
  deriving DecidableEq

/-- The text of a segment. -/
def Segment.text : Segment → List Char
  | blank character => [character]
  | comment remark => '/' :: '/' :: remark
  | symbol mark => mark.text
  | string content => '"' :: content ++ ['"']
  | number numeral => numeral.text
  | word letters => letters
  | stray character => [character]
  | openString content => '"' :: content

/-! ## Classes of characters -/

/-- Is the character one of the four that separate tokens? -/
def isSeparator (character : Char) : Bool :=
  character = ' ' || character = '\t' || character = '\r' || character = '\n'

/-- Is the character an ASCII digit? -/
def isDigit (character : Char) : Bool := character.isDigit

/-- Can the character begin a word? These are the ASCII letters and the underscore. -/
def isLetter (character : Char) : Bool := character.isAlpha || character = '_'

/-- Can the character continue a word? -/
def isWordCharacter (character : Char) : Bool := isLetter character || isDigit character

/-! ## The division of a source -/

namespace Segment

/-- The longest numeral that a text begins with. A point belongs to it only if a
digit follows the point. -/
def longestNumeral (text : List Char) : Number.Numeral where
  whole := text.takeWhile isDigit
  fraction :=
    match text.dropWhile isDigit with
    | '.' :: later => later.takeWhile isDigit
    | _ => []

/-- The first segment of the text that has the given first character and rest. -/
def first (character : Char) (rest : List Char) : Segment :=
  if isSeparator character then .blank character
  else if character = '/' ∧ rest.head? = some '/' then
    .comment (rest.tail.takeWhile fun later => later ≠ '\n')
  else if character = '"' then
    if '"' ∈ rest then .string (rest.takeWhile fun later => later ≠ '"') else .openString rest
  else if isDigit character then .number (longestNumeral (character :: rest))
  else if isLetter character then .word (character :: rest.takeWhile isWordCharacter)
  else
    match Symbol.longestPrefix? (character :: rest) with
    | some mark => .symbol mark
    | none => .stray character

/-- Divides a text into its segments. The step never goes back: at least the
first character of the text is left behind. -/
def split : List Char → List Segment
  | [] => []
  | character :: rest =>
    let segment := first character rest
    segment :: split (rest.drop (segment.text.length - 1))
termination_by text => text.length

end Segment

end LoxLexer
