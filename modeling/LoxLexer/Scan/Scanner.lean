/-
# The scanner

A scanner reads a source lexeme by lexeme. The first character of a lexeme
decides how it is read on. What comes of it is a token, a comment or a
diagnostic, or nothing for the characters that separate tokens. A token that is
not valid is not found; the diagnostic that rejects it is reported in its place.

A scan runs the scanner over the whole source and then adds a token for the end
of the file. The tokens, the diagnostics and the events of a scan are views of
what was found, in the order of the source; one more event tells that the scan
is finished.
-/

import LoxLexer.Scan.Cursor
import LoxLexer.Scan.Finding

namespace LoxLexer

/-- A scan that is under way. -/
structure Scanner where
  keywords : KeywordTable
  file : String
  cursor : Cursor
  /-- What was found, the latest first. -/
  findings : List Finding
  errorCount : Nat

namespace Scanner

/-- The scanner before a named source. -/
def ofSource (keywords : KeywordTable) (file : String) (source : List Char) : Scanner :=
  ⟨keywords, file, .ofSource source, [], 0⟩

/-- The scanner with another cursor. -/
def withCursor (scanner : Scanner) (cursor : Cursor) : Scanner := { scanner with cursor := cursor }

/-- The span of the lexeme. -/
def span (scanner : Scanner) : Span :=
  ⟨scanner.file, scanner.cursor.origin.offset, scanner.cursor.place.offset⟩

/-- Adds to what was found. -/
def note (scanner : Scanner) (finding : Finding) : Scanner :=
  { scanner with findings := finding :: scanner.findings }

/-- Reports a diagnostic and counts it. -/
def report (scanner : Scanner) (diagnostic : Diagnostic) : Scanner :=
  { scanner.note (.diagnostic diagnostic) with errorCount := scanner.errorCount + 1 }

/-- Reports a cause at an offset, on the line that has been reached. -/
def fail (scanner : Scanner) (cause : Cause) (offset : Nat) : Scanner :=
  scanner.report ⟨cause, ⟨offset, scanner.file⟩, scanner.cursor.place.line⟩

/-- The lexeme as a token of the given kind and value. -/
def token (scanner : Scanner) (kind : TokenKind) (literal : Option Literal) : Token where
  kind := kind
  lexeme := String.ofList scanner.cursor.lexeme
  literal := literal
  line := scanner.cursor.origin.line
  span := scanner.span

/-- Makes the lexeme a token of the given kind and value, if that token is valid. -/
def push (scanner : Scanner) (kind : TokenKind) (literal : Option Literal) : Scanner :=
  match (scanner.token kind literal).validate with
  | .ok valid => scanner.note (.token valid)
  | .error diagnostic => scanner.report diagnostic

/-- Makes the lexeme a symbol. -/
def pushSymbol (scanner : Scanner) (mark : Symbol) : Scanner := scanner.push (.symbol mark) none

/-- Makes the lexeme the longer symbol if an equals sign is next, and else the shorter one. -/
def pushWithEqual (scanner : Scanner) (longer shorter : Symbol) : Scanner :=
  match scanner.cursor.accept? '=' with
  | some cursor => (scanner.withCursor cursor).pushSymbol longer
  | none => scanner.pushSymbol shorter

/-! ## Lexemes of more than one character -/

/-- Reads on to the end of the line. -/
def scanComment (scanner : Scanner) : Scanner :=
  let cursor := scanner.cursor.advanceWhile fun character => character ≠ '\n'
  (scanner.withCursor cursor).note (.comment cursor.place.line (String.ofList cursor.lexeme))

/-- Reads a comment after a second slash; without one the lexeme is a slash. -/
def scanSlash (scanner : Scanner) : Scanner :=
  match scanner.cursor.accept? '/' with
  | some cursor => (scanner.withCursor cursor).scanComment
  | none => scanner.pushSymbol .slash

/-- Reads a string up to and including its closing quotation mark. A string that
is not closed is wrong where the source ends. -/
def scanString (scanner : Scanner) : Scanner :=
  let cursor := scanner.cursor.advanceToQuote
  match cursor.peek? with
  | none => (scanner.withCursor cursor).fail .unterminatedString cursor.place.offset
  | some _ =>
    let cursor := cursor.advance
    (scanner.withCursor cursor).push .string
      (some (.string (String.ofList cursor.lexeme.tail.dropLast)))

/-- Reads a number. A lexeme that is no numeral is wrong where it begins. -/
def scanNumber (scanner : Scanner) : Scanner :=
  let cursor := scanner.cursor.advanceNumeral
  let scanner := scanner.withCursor cursor
  match Number.Numeral.ofText? cursor.lexeme with
  | some numeral => scanner.push .number (some (.number numeral.denotation))
  | none => scanner.fail (.malformedNumber (String.ofList cursor.lexeme)) cursor.origin.offset

/-- Reads the rest of a word and looks the whole word up. -/
def scanWord (scanner : Scanner) : Scanner :=
  let cursor := scanner.cursor.advanceWhile isWordCharacter
  (scanner.withCursor cursor).push (scanner.keywords.kindOf (String.ofList cursor.lexeme)) none

/-- Reads a number or a word after its first character. No other lexeme begins
with a character that is no mark. -/
def scanUnmarked (scanner : Scanner) (character : Char) : Scanner :=
  if isDigit character then scanner.scanNumber
  else if isLetter character then scanner.scanWord
  else scanner.fail (.unexpectedCharacter character) scanner.cursor.origin.offset

/-! ## The scan -/

/-- Goes on after the first character of a lexeme. -/
def scanAfter (scanner : Scanner) (character : Char) : Scanner :=
  match character with
  | '(' => scanner.pushSymbol .leftParen
  | ')' => scanner.pushSymbol .rightParen
  | '\x7b' => scanner.pushSymbol .leftBrace
  | '\x7d' => scanner.pushSymbol .rightBrace
  | ',' => scanner.pushSymbol .comma
  | '.' => scanner.pushSymbol .dot
  | '-' => scanner.pushSymbol .minus
  | '+' => scanner.pushSymbol .plus
  | ';' => scanner.pushSymbol .semicolon
  | '*' => scanner.pushSymbol .star
  | '!' => scanner.pushWithEqual .bangEqual .bang
  | '=' => scanner.pushWithEqual .equalEqual .equal
  | '<' => scanner.pushWithEqual .lessEqual .less
  | '>' => scanner.pushWithEqual .greaterEqual .greater
  | '/' => scanner.scanSlash
  | ' ' | '\r' | '\t' => scanner
  | '\n' => scanner.withCursor scanner.cursor.countLine
  | '"' => scanner.scanString
  | other => scanner.scanUnmarked other

/-- Reads one lexeme. -/
def scanLexeme (scanner : Scanner) : Scanner :=
  let cursor := scanner.cursor.beginLexeme
  match cursor.peek? with
  | none => scanner
  | some character => (scanner.withCursor cursor.advance).scanAfter character

/-! ## The scan comes to an end -/

@[simp] theorem cursor_withCursor (scanner : Scanner) (cursor : Cursor) :
    (scanner.withCursor cursor).cursor = cursor := rfl

@[simp] theorem cursor_note (scanner : Scanner) (finding : Finding) :
    (scanner.note finding).cursor = scanner.cursor := rfl

@[simp] theorem cursor_report (scanner : Scanner) (diagnostic : Diagnostic) :
    (scanner.report diagnostic).cursor = scanner.cursor := rfl

@[simp] theorem cursor_fail (scanner : Scanner) (cause : Cause) (offset : Nat) :
    (scanner.fail cause offset).cursor = scanner.cursor := rfl

@[simp] theorem cursor_push (scanner : Scanner) (kind : TokenKind) (literal : Option Literal) :
    (scanner.push kind literal).cursor = scanner.cursor := by
  unfold push
  split <;> rfl

@[simp] theorem cursor_pushSymbol (scanner : Scanner) (mark : Symbol) :
    (scanner.pushSymbol mark).cursor = scanner.cursor := cursor_push ..

@[simp] theorem ahead_pushWithEqual_suffix (scanner : Scanner) (longer shorter : Symbol) :
    (scanner.pushWithEqual longer shorter).cursor.ahead <:+ scanner.cursor.ahead := by
  unfold pushWithEqual
  split
  · next accepted => simpa using Cursor.ahead_suffix_of_accept? accepted
  · simp

@[simp] theorem ahead_scanComment_suffix (scanner : Scanner) :
    scanner.scanComment.cursor.ahead <:+ scanner.cursor.ahead :=
  Cursor.ahead_advanceWhile_suffix _ _

@[simp] theorem ahead_scanSlash_suffix (scanner : Scanner) :
    scanner.scanSlash.cursor.ahead <:+ scanner.cursor.ahead := by
  unfold scanSlash
  split
  · next accepted =>
      exact (ahead_scanComment_suffix _).trans (Cursor.ahead_suffix_of_accept? accepted)
  · simp

@[simp] theorem ahead_scanString_suffix (scanner : Scanner) :
    scanner.scanString.cursor.ahead <:+ scanner.cursor.ahead := by
  have body := Cursor.ahead_advanceToQuote_suffix scanner.cursor
  simp only [scanString]
  split
  · simpa using body
  · simpa using (Cursor.ahead_advance_suffix _).trans body

@[simp] theorem ahead_scanNumber_suffix (scanner : Scanner) :
    scanner.scanNumber.cursor.ahead <:+ scanner.cursor.ahead := by
  have numeral := Cursor.ahead_advanceNumeral_suffix scanner.cursor
  simp only [scanNumber]
  split <;> simpa using numeral

@[simp] theorem ahead_scanWord_suffix (scanner : Scanner) :
    scanner.scanWord.cursor.ahead <:+ scanner.cursor.ahead := by
  simpa [scanWord] using Cursor.ahead_advanceWhile_suffix isWordCharacter scanner.cursor

@[simp] theorem ahead_scanUnmarked_suffix (scanner : Scanner) (character : Char) :
    (scanner.scanUnmarked character).cursor.ahead <:+ scanner.cursor.ahead := by
  unfold scanUnmarked
  split
  · simp
  · split <;> simp

/-- However a lexeme goes on, no character comes back. -/
theorem ahead_scanAfter_suffix (scanner : Scanner) (character : Char) :
    (scanner.scanAfter character).cursor.ahead <:+ scanner.cursor.ahead := by
  unfold scanAfter
  split <;> simp [Cursor.countLine]

/-- A lexeme has at least one character. -/
theorem length_ahead_scanLexeme_lt {scanner : Scanner} (unread : scanner.cursor.ahead ≠ []) :
    scanner.scanLexeme.cursor.ahead.length < scanner.cursor.ahead.length := by
  obtain ⟨character, rest, front⟩ := List.exists_cons_of_ne_nil unread
  have consumed := (ahead_scanAfter_suffix
    (scanner.withCursor scanner.cursor.beginLexeme.advance) character).length_le
  rw [cursor_withCursor, Cursor.ahead_advance] at consumed
  simp only [scanLexeme, Cursor.peek?, Cursor.beginLexeme, front, List.head?_cons,
    List.length_cons, List.tail_cons] at consumed ⊢
  omega

/-- Reads lexemes until the source is at its end. -/
def scanAll (scanner : Scanner) : Scanner :=
  if _unread : scanner.cursor.ahead = [] then scanner else scanAll scanner.scanLexeme
termination_by scanner.cursor.ahead.length
decreasing_by exact length_ahead_scanLexeme_lt _unread

/-- Adds the token that stands at the end of the source. -/
def close (scanner : Scanner) : Scanner :=
  (scanner.withCursor scanner.cursor.beginLexeme).push .endOfFile none

end Scanner

/-! ## Scans of sources -/

/-- The result of scanning one source. -/
structure Scan where
  file : String
  /-- What was found, in the order of the source. -/
  findings : List Finding
  /-- The number of diagnostics, as the scanner counted them. -/
  errorCount : Nat
  lastLine : Nat
  deriving DecidableEq

namespace Scan

/-- Scans a named source with a keyword table. -/
def ofSource (keywords : KeywordTable) (file : String) (source : List Char) : Scan :=
  let scanner := (Scanner.ofSource keywords file source).scanAll.close
  { file := file
    findings := scanner.findings.reverse
    errorCount := scanner.errorCount
    lastLine := scanner.cursor.place.line }

/-- The tokens, the last of which is the end of the file. -/
def tokens (scan : Scan) : List Token := scan.findings.filterMap Finding.token?

/-- What is wrong with the source. -/
def diagnostics (scan : Scan) : List Diagnostic := scan.findings.filterMap Finding.diagnostic?

/-- The events of the scan. -/
def events (scan : Scan) : List Event :=
  scan.findings.map Finding.event ++
    [.scanFinished scan.file scan.tokens.length scan.errorCount scan.lastLine]

/-- The name of a source that comes from no file. -/
def shellName : String := "shell"

/-- Scans a text with the keywords of the language. A text that comes from no
file has the name of the shell. -/
def ofText (source : String) (file : Option String) : Scan :=
  ofSource .builtin (file.getD shellName) source.toList

end Scan

end LoxLexer
