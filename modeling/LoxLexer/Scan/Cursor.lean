/-
# Reading a source

A cursor goes through a source one character at a time. It knows where the
lexeme that is being read begins, which characters belong to the lexeme so far
and what is still ahead. Reading a character moves the offset. It does not move
the line: a line feed has to be counted by whoever reads it.
-/

import LoxLexer.Scan.Finding

namespace LoxLexer

/-- How far a source has been read. -/
structure Cursor where
  origin : Place
  /-- The characters of the lexeme, the latest one first. -/
  taken : List Char
  place : Place
  ahead : List Char
  deriving DecidableEq

namespace Cursor

/-- The cursor before a source. -/
def ofSource (source : List Char) : Cursor := ⟨.start, [], .start, source⟩

/-- The text of the lexeme. -/
def lexeme (cursor : Cursor) : List Char := cursor.taken.reverse

/-- The next character. -/
def peek? (cursor : Cursor) : Option Char := cursor.ahead.head?

/-- The character after the next one. -/
def peekNext? (cursor : Cursor) : Option Char := cursor.ahead.tail.head?

/-- Begins a lexeme at the place that has been reached. -/
def beginLexeme (cursor : Cursor) : Cursor := { cursor with origin := cursor.place, taken := [] }

/-- Reads the next character, if there is one. -/
def advance (cursor : Cursor) : Cursor :=
  match cursor.ahead with
  | [] => cursor
  | character :: rest =>
    { cursor with
      taken := character :: cursor.taken
      place := { cursor.place with offset := cursor.place.offset + character.utf8Size }
      ahead := rest }

/-- Goes on to the next line. -/
def countLine (cursor : Cursor) : Cursor :=
  { cursor with place := { cursor.place with line := cursor.place.line + 1 } }

/-- Reads the next character if it is the expected one. -/
def accept? (cursor : Cursor) (expected : Char) : Option Cursor :=
  if cursor.peek? = some expected then some cursor.advance else none

/-- Reads on as long as the next character is allowed. -/
def advanceWhile (allowed : Char → Bool) (cursor : Cursor) : Cursor :=
  match _unread : cursor.ahead with
  | [] => cursor
  | character :: _ =>
    if allowed character then advanceWhile allowed cursor.advance else cursor
termination_by cursor.ahead.length
decreasing_by simp [advance, _unread]

/-- Reads digits, and a point with more digits if a digit follows the point. -/
def advanceNumeral (cursor : Cursor) : Cursor :=
  let whole := cursor.advanceWhile isDigit
  if whole.peek? = some '.' ∧ whole.peekNext?.any isDigit then
    whole.advance.advanceWhile isDigit
  else whole

/-- Reads on to the next quotation mark or to the end and counts the lines. -/
def advanceToQuote (cursor : Cursor) : Cursor :=
  match _unread : cursor.ahead with
  | [] => cursor
  | character :: _ =>
    if character = '"' then cursor
    else if character = '\n' then advanceToQuote cursor.countLine.advance
    else advanceToQuote cursor.advance
termination_by cursor.ahead.length
decreasing_by all_goals simp [advance, countLine, _unread]

/-! ## What reading amounts to

A reading ends where the text that was read ends, if its line feeds were counted. -/

/-- The cursor after a text, with the line feeds of the text counted. -/
def past (cursor : Cursor) (text : List Char) : Cursor where
  origin := cursor.origin
  taken := text.reverse ++ cursor.taken
  place := cursor.place.after text
  ahead := cursor.ahead.drop text.length

@[simp] theorem past_nil (cursor : Cursor) : cursor.past [] = cursor := rfl

theorem past_past (cursor : Cursor) (first second : List Char) :
    (cursor.past first).past second = cursor.past (first ++ second) := by
  simp [past, Place.after_append]

/-- Reading a character is going over it, unless it is a line feed. -/
theorem advance_eq_past {cursor : Cursor} {character : Char} {rest : List Char}
    (unread : cursor.ahead = character :: rest) (sameLine : character ≠ '\n') :
    cursor.advance = cursor.past [character] := by
  simp [advance, past, unread, Place.after, Text.lineFeeds, sameLine]

/-- Reading a line feed and counting it is going over it. -/
theorem countLine_advance_eq_past {cursor : Cursor} {rest : List Char}
    (unread : cursor.ahead = '\n' :: rest) :
    cursor.countLine.advance = cursor.past ['\n'] := by
  simp [countLine, advance, past, unread, Place.after, Text.lineFeeds]

theorem countLine_advance (cursor : Cursor) :
    cursor.advance.countLine = cursor.countLine.advance := by
  cases unread : cursor.ahead <;> simp [countLine, advance, unread]

/-- Reading while line feeds are not allowed is going over the longest allowed text. -/
theorem advanceWhile_eq_past {allowed : Char → Bool} (sameLine : allowed '\n' = false)
    (cursor : Cursor) :
    cursor.advanceWhile allowed = cursor.past (cursor.ahead.takeWhile allowed) := by
  fun_induction advanceWhile allowed cursor with
  | case1 cursor unread => simp [unread]
  | case2 cursor character rest unread permitted ih =>
      have noLine : character ≠ '\n' := by
        rintro rfl
        rw [sameLine] at permitted
        contradiction
      rw [ih, advance_eq_past unread noLine, past_past, unread]
      simp [past, unread, permitted]
  | case3 cursor character rest unread forbidden => simp [unread, forbidden]

/-- Reading to the next quotation mark is going over the longest text without one. -/
theorem advanceToQuote_eq_past (cursor : Cursor) :
    cursor.advanceToQuote = cursor.past (cursor.ahead.takeWhile fun later => later ≠ '"') := by
  fun_induction advanceToQuote cursor with
  | case1 cursor unread => simp [unread]
  | case2 cursor rest unread => simp [unread]
  | case3 cursor rest unread _ ih =>
      rw [ih, countLine_advance_eq_past unread, past_past, unread]
      simp [past, unread]
  | case4 cursor character rest unread open_ sameLine ih =>
      rw [ih, advance_eq_past unread sameLine, past_past, unread]
      simp [past, unread, open_]

/-! ## Reading never goes back -/

theorem ahead_past_suffix (cursor : Cursor) (text : List Char) :
    (cursor.past text).ahead <:+ cursor.ahead :=
  List.drop_suffix _ _

theorem ahead_advance (cursor : Cursor) : cursor.advance.ahead = cursor.ahead.tail := by
  cases unread : cursor.ahead <;> simp [advance, unread]

theorem ahead_advance_suffix (cursor : Cursor) : cursor.advance.ahead <:+ cursor.ahead :=
  ahead_advance cursor ▸ List.tail_suffix _

theorem ahead_advanceWhile_suffix (allowed : Char → Bool) (cursor : Cursor) :
    (cursor.advanceWhile allowed).ahead <:+ cursor.ahead := by
  fun_induction advanceWhile allowed cursor with
  | case1 cursor unread => exact List.suffix_refl _
  | case2 cursor character rest unread permitted ih => exact ih.trans (ahead_advance_suffix cursor)
  | case3 cursor character rest unread forbidden => exact List.suffix_refl _

theorem ahead_advanceNumeral_suffix (cursor : Cursor) :
    cursor.advanceNumeral.ahead <:+ cursor.ahead := by
  have whole := ahead_advanceWhile_suffix isDigit cursor
  simp only [advanceNumeral]
  split
  · exact (ahead_advanceWhile_suffix _ _).trans ((ahead_advance_suffix _).trans whole)
  · exact whole

theorem ahead_advanceToQuote_suffix (cursor : Cursor) :
    cursor.advanceToQuote.ahead <:+ cursor.ahead :=
  advanceToQuote_eq_past cursor ▸ ahead_past_suffix cursor _

theorem ahead_suffix_of_accept? {cursor next : Cursor} {expected : Char}
    (accepted : cursor.accept? expected = some next) : next.ahead <:+ cursor.ahead := by
  unfold accept? at accepted
  split at accepted
  · cases accepted
    exact ahead_advance_suffix cursor
  · contradiction

end Cursor

end LoxLexer
