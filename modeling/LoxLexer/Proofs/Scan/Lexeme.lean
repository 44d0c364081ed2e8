/-
# One lexeme of the scanner is one segment

Reading a lexeme leaves the scanner behind the first segment of what was ahead,
with the line feeds of the segment counted and with the finding of the segment
added. In particular the scanner never rejects a token that it makes.
-/

import LoxLexer.Proofs.Segment.Division
import LoxLexer.Scan.Scanner

namespace LoxLexer

/-! ## What symbols grow by -/

namespace Symbol

/-- Only four symbols are continued, and only by an equals sign. -/
theorem growsBy_iff {mark : Symbol} {next : Char} :
    mark.GrowsBy next ↔
      next = '=' ∧ (mark = bang ∨ mark = equal ∨ mark = greater ∨ mark = less) := by
  constructor
  · rintro ⟨longer, grown⟩
    cases longer <;> cases mark <;> simp [text] at grown ⊢ <;> exact grown.symm
  · rintro ⟨rfl, rfl | rfl | rfl | rfl⟩
    · exact ⟨bangEqual, rfl⟩
    · exact ⟨equalEqual, rfl⟩
    · exact ⟨greaterEqual, rfl⟩
    · exact ⟨lessEqual, rfl⟩

end Symbol

theorem Segment.endsBefore_of_two {mark : Symbol} {initial second : Char}
    (written : mark.text = [initial, second]) (later : List Char) :
    (Segment.symbol mark).EndsBefore later := by
  constructor
  · rintro next - grows
    obtain ⟨-, rfl | rfl | rfl | rfl⟩ := Symbol.growsBy_iff.mp grows <;>
      simp [Symbol.text] at written
  · rintro rfl
    simp [Symbol.text] at written

/-! ## Lexemes of tokens are not blank -/

theorem isWhiteSpace_eq_false_of_isWordCharacter {character : Char}
    (inside : isWordCharacter character = true) : Text.isWhiteSpace character = false := by
  rw [isWordCharacter, Bool.or_eq_true, isLetter_iff, isDigit_iff] at inside
  by_cases underscore : character = '_'
  · rw [underscore]
    rfl
  · simp only [underscore, or_false] at inside
    simp only [Text.isWhiteSpace, Text.inRanges, Text.whiteSpaceRanges, List.any_cons, List.any_nil,
      Bool.or_false, Bool.or_eq_false_iff, Bool.and_eq_false_iff, decide_eq_false_iff_not]
    omega

theorem isWhiteSpace_eq_false_of_head_text {mark : Symbol} {initial : Char}
    (begins : mark.text.head? = some initial) : Text.isWhiteSpace initial = false := by
  cases mark <;> cases begins <;> rfl

theorem isBlank_eq_false_of_head {text : List Char} {initial : Char}
    (front : text.head? = some initial) (visible : Text.isWhiteSpace initial = false) :
    Text.isBlank text = false := by
  obtain ⟨rest, rfl⟩ := List.head?_eq_some_iff.mp front
  simp [Text.isBlank, visible]

theorem Symbol.isBlank_text (mark : Symbol) : Text.isBlank mark.text = false := by
  obtain ⟨initial, rest, front⟩ := List.exists_cons_of_ne_nil mark.text_ne_nil
  have begins : mark.text.head? = some initial := by rw [front]; rfl
  exact isBlank_eq_false_of_head begins (isWhiteSpace_eq_false_of_head_text begins)

/-! ## Numerals are read back -/

/-- A numeral of the grammar is read as itself. -/
theorem Number.Numeral.ofText?_text {numeral : Number.Numeral}
    (wellFormed : (Segment.number numeral).WellFormed) :
    ofText? numeral.text = some numeral := by
  obtain ⟨whole, fraction⟩ := numeral
  obtain ⟨nonempty, wholeDigits, fractionDigits⟩ := wellFormed
  cases fraction with
  | nil =>
      have stops : EndsRun Char.isDigit [] := endsRun_nil _
      have taken := stops.takeWhile_append wholeDigits
      have behind := stops.dropWhile_append wholeDigits
      simp only [List.append_nil] at taken behind
      simp only [text, ofText?, taken, behind]
      simp only [List.isEmpty_iff, ite_eq_right_iff]
      intro empty
      exact absurd empty nonempty
  | cons digit more =>
      have stops : EndsRun Char.isDigit ('.' :: digit :: more) := by
        rintro next ⟨⟩
        rfl
      have taken := stops.takeWhile_append wholeDigits
      have behind := stops.dropWhile_append wholeDigits
      have digits : (digit :: more).all Char.isDigit = true := List.all_eq_true.mpr fractionDigits
      simp only at taken behind
      simp only [text, ofText?, taken, behind, digits]
      simp

theorem Number.Numeral.head?_text {numeral : Number.Numeral} {initial : Char}
    (front : numeral.whole.head? = some initial) : numeral.text.head? = some initial := by
  obtain ⟨more, written⟩ := List.head?_eq_some_iff.mp front
  unfold text
  split <;> simp [written]

namespace Segment

theorem isBlank_text_number {numeral : Number.Numeral}
    (wellFormed : (number numeral).WellFormed) :
    Text.isBlank (number numeral).text = false := by
  obtain ⟨digit, more, front⟩ := List.exists_cons_of_ne_nil wellFormed.1
  have begins : numeral.whole.head? = some digit := by rw [front]; rfl
  apply isBlank_eq_false_of_head (Number.Numeral.head?_text begins)
  apply isWhiteSpace_eq_false_of_isWordCharacter
  exact isWordCharacter_of_isDigit (wellFormed.2.1 digit (List.mem_of_head? begins))

theorem isBlank_text_word {letters : List Char} (wellFormed : (word letters).WellFormed) :
    Text.isBlank (word letters).text = false := by
  obtain ⟨⟨initial, begins, letter⟩, -⟩ := wellFormed
  apply isBlank_eq_false_of_head begins
  exact isWhiteSpace_eq_false_of_isWordCharacter (isWordCharacter_of_isLetter letter)

end Segment

namespace Scanner

/-- The scanner that has read a text as its lexeme. -/
def reading (scanner : Scanner) (text : List Char) : Scanner :=
  scanner.withCursor (scanner.cursor.beginLexeme.past text)

/-- The scanner with a finding added, if there is one. -/
def add (scanner : Scanner) : Option Finding → Scanner
  | none => scanner
  | some (.diagnostic diagnostic) => scanner.report diagnostic
  | some finding => scanner.note finding

/-- The scanner behind a segment, with the finding of the segment added. -/
def afterSegment (scanner : Scanner) (segment : Segment) : Scanner :=
  (scanner.reading segment.text).add
    (PlacedSegment.finding? scanner.keywords scanner.file ⟨segment, scanner.cursor.place⟩)

variable {scanner : Scanner} {character : Char} {rest : List Char}

@[simp] theorem lexeme_reading (scanner : Scanner) (text : List Char) :
    (scanner.reading text).cursor.lexeme = text := by
  simp [reading, Cursor.lexeme, Cursor.past, Cursor.beginLexeme]

theorem ahead_reading (scanner : Scanner) (text : List Char) :
    (scanner.reading text).cursor.ahead = scanner.cursor.ahead.drop text.length := rfl

theorem ahead_reading_append {first second : List Char}
    (unread : scanner.cursor.ahead = first ++ second) :
    (scanner.reading first).cursor.ahead = second := by
  rw [ahead_reading, unread, List.drop_left]

theorem past_reading (scanner : Scanner) (first second : List Char) :
    (scanner.reading first).cursor.past second = (scanner.reading (first ++ second)).cursor :=
  Cursor.past_past ..

@[simp] theorem withCursor_reading (scanner : Scanner) (first second : List Char) :
    (scanner.reading first).withCursor (scanner.reading second).cursor = scanner.reading second :=
  rfl

/-- A run of allowed characters is read as a whole. -/
theorem advanceWhile_reading {allowed : Char → Bool} {run later : List Char} (first : List Char)
    (unread : scanner.cursor.ahead = first ++ (run ++ later)) (sameLine : allowed '\n' = false)
    (inside : ∀ character ∈ run, allowed character = true) (ends : EndsRun allowed later) :
    (scanner.reading first).cursor.advanceWhile allowed =
      (scanner.reading (first ++ run)).cursor := by
  rw [Cursor.advanceWhile_eq_past sameLine, ahead_reading_append unread,
    ends.takeWhile_append inside, past_reading]

/-- A visible lexeme on a line of the source is made a token. -/
theorem push_reading (segment : Segment) (line : scanner.cursor.place.line ≠ 0)
    (visible : Text.isBlank segment.text = false) (kind : TokenKind) (literal : Option Literal) :
    (scanner.reading segment.text).push kind literal =
      (scanner.reading segment.text).note
        (.token
          (PlacedSegment.token ⟨segment, scanner.cursor.place⟩ scanner.file kind literal)) := by
  have same : (scanner.reading segment.text).token kind literal =
      PlacedSegment.token ⟨segment, scanner.cursor.place⟩ scanner.file kind literal := by
    simp only [token, lexeme_reading]
    rfl
  have valid : (PlacedSegment.token ⟨segment, scanner.cursor.place⟩ scanner.file kind
      literal).fault? = none := by
    simp [Token.fault?, PlacedSegment.token, line, visible]
  simp only [push, same, Token.validate, valid]

theorem pushSymbol_reading (line : scanner.cursor.place.line ≠ 0) (mark : Symbol) :
    (scanner.reading mark.text).pushSymbol mark = scanner.afterSegment (.symbol mark) :=
  push_reading (.symbol mark) line mark.isBlank_text _ _

/-! ## Each form of lexeme -/

theorem advance_reading (unread : scanner.cursor.ahead = character :: rest)
    (sameLine : character ≠ '\n') :
    scanner.withCursor scanner.cursor.beginLexeme.advance = scanner.reading [character] := by
  have ahead : scanner.cursor.beginLexeme.ahead = character :: rest := unread
  rw [reading, Cursor.advance_eq_past ahead sameLine]

/-- A mark that cannot grow before the text behind it is a symbol. -/
theorem pushSymbol_first {mark : Symbol} (line : scanner.cursor.place.line ≠ 0)
    (written : mark.text = [character]) (ends : (Segment.symbol mark).EndsBefore rest) :
    (scanner.reading [character]).pushSymbol mark =
      scanner.afterSegment (Segment.first character rest) := by
  have whole : mark.text ++ rest = character :: rest := by rw [written]; rfl
  rw [Segment.first_eq_symbol ends whole, ← written, pushSymbol_reading line]

/-- An expected character behind the first one is read as part of the lexeme. -/
theorem accept?_reading {expected : Char} (unread : scanner.cursor.ahead = character :: rest)
    (sameLine : expected ≠ '\n') :
    (scanner.reading [character]).cursor.accept? expected =
      if rest.head? = some expected then
        some (scanner.reading [character, expected]).cursor
      else none := by
  have behind : (scanner.reading [character]).cursor.ahead = rest := ahead_reading_append unread
  rw [Cursor.accept?, Cursor.peek?, behind]
  split
  · next second =>
      obtain ⟨more, rfl⟩ := List.head?_eq_some_iff.mp second
      rw [Cursor.advance_eq_past behind sameLine, past_reading]
      rfl
  · rfl

/-- A lexeme is a symbol with an equals sign if that is next, and else without it. -/
theorem pushWithEqual_first {longer shorter : Symbol} (line : scanner.cursor.place.line ≠ 0)
    (unread : scanner.cursor.ahead = character :: rest)
    (long : longer.text = [character, '=']) (short : shorter.text = [character])
    (notSlash : shorter ≠ .slash) :
    (scanner.reading [character]).pushWithEqual longer shorter =
      scanner.afterSegment (Segment.first character rest) := by
  rw [pushWithEqual, accept?_reading unread (by decide)]
  by_cases second : rest.head? = some '='
  · obtain ⟨more, rfl⟩ := List.head?_eq_some_iff.mp second
    have whole : longer.text ++ more = character :: '=' :: more := by rw [long]; rfl
    have ends := Segment.endsBefore_of_two long more
    rw [if_pos second, Segment.first_eq_symbol ends whole, ← pushSymbol_reading line, long]
    rfl
  · have ends : (Segment.symbol shorter).EndsBefore rest := by
      refine ⟨?_, fun slash => absurd slash notSlash⟩
      intro next front grows
      obtain ⟨rfl, -⟩ := Symbol.growsBy_iff.mp grows
      exact second front
    rw [if_neg second]
    exact pushSymbol_first line short ends

theorem scanComment_reading {remark later : List Char}
    (unread : scanner.cursor.ahead = '/' :: '/' :: (remark ++ later))
    (wellFormed : (Segment.comment remark).WellFormed)
    (ends : (Segment.comment remark).EndsBefore later) :
    (scanner.reading ['/', '/']).scanComment = scanner.afterSegment (.comment remark) := by
  have read := advanceWhile_reading ['/', '/'] unread (by decide)
    (Segment.forall_ne_of_not_mem wellFormed) ends
  have none : Text.lineFeeds ('/' :: '/' :: remark) = 0 := by
    rw [Text.lineFeeds, List.count_eq_zero]
    intro member
    simp only [List.mem_cons, Char.reduceEq, false_or] at member
    exact wellFormed member
  have sameLine : (scanner.reading ('/' :: '/' :: remark)).cursor.place.line =
      scanner.cursor.place.line := by
    simp [reading, withCursor, Cursor.past, Cursor.beginLexeme, Place.after, none]
  simp only [List.cons_append, List.nil_append] at read
  simp only [scanComment, read, withCursor_reading, sameLine, lexeme_reading]
  rfl

/-- A slash begins a comment if another slash is next, and else it is a symbol. -/
theorem scanSlash_first (line : scanner.cursor.place.line ≠ 0)
    (unread : scanner.cursor.ahead = '/' :: rest) :
    (scanner.reading ['/']).scanSlash = scanner.afterSegment (Segment.first '/' rest) := by
  rw [scanSlash, accept?_reading unread (by decide)]
  by_cases second : rest.head? = some '/'
  · obtain ⟨more, rfl⟩ := List.head?_eq_some_iff.mp second
    have form : Segment.first '/' ('/' :: more) =
        .comment (more.takeWhile fun later => later ≠ '\n') := by
      simp [Segment.first, isSeparator]
    have wellFormed := Segment.first_wellFormed '/' ('/' :: more)
    have whole := Segment.text_first_append_drop '/' ('/' :: more)
    have ends := Segment.first_endsBefore whole
    rw [form] at wellFormed whole ends ⊢
    rw [if_pos second]
    exact scanComment_reading (unread.trans whole.symm) wellFormed ends
  · have ends : (Segment.symbol .slash).EndsBefore rest := by
      simp [Segment.EndsBefore, Symbol.growsBy_iff, second]
    rw [if_neg second]
    exact pushSymbol_first line rfl ends

theorem advanceToQuote_reading {content later : List Char}
    (unread : scanner.cursor.ahead = '"' :: (content ++ later)) (absent : '"' ∉ content)
    (ends : EndsRun (fun next => next ≠ '"') later) :
    (scanner.reading ['"']).cursor.advanceToQuote = (scanner.reading ('"' :: content)).cursor := by
  have behind : (scanner.reading ['"']).cursor.ahead = content ++ later :=
    ahead_reading_append unread
  rw [Cursor.advanceToQuote_eq_past, behind,
    ends.takeWhile_append (Segment.forall_ne_of_not_mem absent), past_reading]
  rfl

theorem scanString_reading {content later : List Char} (line : scanner.cursor.place.line ≠ 0)
    (unread : scanner.cursor.ahead = '"' :: (content ++ '"' :: later))
    (wellFormed : (Segment.string content).WellFormed) :
    (scanner.reading ['"']).scanString = scanner.afterSegment (.string content) := by
  have stops : EndsRun (fun next => next ≠ '"') ('"' :: later) := by
    rintro next ⟨⟩
    rfl
  have body := advanceToQuote_reading unread wellFormed stops
  have closing : (scanner.reading ('"' :: content)).cursor.ahead = '"' :: later :=
    ahead_reading_append unread
  have read : (scanner.reading ('"' :: content)).cursor.advance =
      (scanner.reading ('"' :: content ++ ['"'])).cursor := by
    rw [Cursor.advance_eq_past closing (by decide), past_reading]
  have value : ('"' :: content ++ ['"']).tail.dropLast = content := by simp
  have visible : Text.isBlank (Segment.string content).text = false :=
    isBlank_eq_false_of_head rfl rfl
  simp only [scanString, body, Cursor.peek?, closing, List.head?_cons, read, withCursor_reading,
    lexeme_reading, value]
  exact push_reading _ line visible _ _

theorem scanString_reading_open {content : List Char}
    (unread : scanner.cursor.ahead = '"' :: content)
    (wellFormed : (Segment.openString content).WellFormed) :
    (scanner.reading ['"']).scanString = scanner.afterSegment (.openString content) := by
  have whole : scanner.cursor.ahead = '"' :: (content ++ []) := by rw [unread, List.append_nil]
  have body := advanceToQuote_reading whole wellFormed (endsRun_nil _)
  have ended : (scanner.reading ('"' :: content)).cursor.ahead = [] :=
    ahead_reading_append whole
  simp only [scanString, body, Cursor.peek?, ended, List.head?_nil, withCursor_reading]
  rfl

/-- A string goes to the next quotation mark; without one it is open to the end. -/
theorem scanString_first (line : scanner.cursor.place.line ≠ 0)
    (unread : scanner.cursor.ahead = '"' :: rest) :
    (scanner.reading ['"']).scanString = scanner.afterSegment (Segment.first '"' rest) := by
  by_cases closed : '"' ∈ rest
  · have form : Segment.first '"' rest = .string (rest.takeWhile fun later => later ≠ '"') := by
      simp [Segment.first, isSeparator, closed]
    have wellFormed := Segment.first_wellFormed '"' rest
    have whole := Segment.text_first_append_drop '"' rest
    rw [form] at wellFormed whole ⊢
    rw [Segment.text, List.append_assoc] at whole
    exact scanString_reading line (unread.trans whole.symm) wellFormed
  · have form : Segment.first '"' rest = .openString rest := by
      simp [Segment.first, isSeparator, closed]
    rw [form]
    exact scanString_reading_open unread closed

/-- After its first digit a numeral is read as a whole. -/
theorem advanceNumeral_reading {numeral : Number.Numeral} {later : List Char}
    (unread : scanner.cursor.ahead = numeral.text ++ later)
    (wellFormed : (Segment.number numeral).WellFormed)
    (ends : (Segment.number numeral).EndsBefore later)
    (front : numeral.whole.head? = some character) :
    (scanner.reading [character]).cursor.advanceNumeral =
      (scanner.reading numeral.text).cursor := by
  obtain ⟨whole, fraction⟩ := numeral
  obtain ⟨-, wholeDigits, fractionDigits⟩ := wellFormed
  obtain ⟨ends, point⟩ := ends
  obtain ⟨more, rfl⟩ : ∃ more, whole = character :: more := List.head?_eq_some_iff.mp front
  have inside : ∀ digit ∈ more, isDigit digit = true :=
    fun digit member => wholeDigits digit (List.mem_cons_of_mem _ member)
  cases fraction with
  | nil =>
      have first := advanceWhile_reading [character] unread (by decide) inside ends
      have behind := ahead_reading_append unread
      simp only [Number.Numeral.text, List.cons_append, List.nil_append] at first behind ⊢
      simp only [Cursor.advanceNumeral, first, Cursor.peek?, Cursor.peekNext?, behind]
      rw [if_neg]
      rintro ⟨second, third⟩
      obtain ⟨next, front, digit⟩ := (Option.any_eq_true _ _).mp third
      rw [point rfl second next front] at digit
      contradiction
  | cons digit fraction =>
      have stops : EndsRun isDigit ('.' :: (digit :: fraction ++ later)) := by
        rintro next ⟨⟩
        rfl
      simp only [Number.Numeral.text, List.append_assoc] at unread ⊢
      have first := advanceWhile_reading [character] unread (by decide) inside stops
      have behind := ahead_reading_append unread
      have dot : (scanner.reading (character :: more)).cursor.advance =
          (scanner.reading (character :: more ++ ['.'])).cursor := by
        rw [Cursor.advance_eq_past behind (by decide), past_reading]
      have second := advanceWhile_reading (character :: more ++ ['.']) (by simpa using unread)
        (by decide) fractionDigits ends
      simp only [List.cons_append, List.nil_append] at first
      simp only [Cursor.advanceNumeral, first, Cursor.peek?, Cursor.peekNext?, behind]
      rw [if_pos ⟨rfl, by simp [fractionDigits]⟩, dot, second]
      simp

theorem scanNumber_reading {numeral : Number.Numeral} {later : List Char}
    (unread : scanner.cursor.ahead = numeral.text ++ later)
    (wellFormed : (Segment.number numeral).WellFormed)
    (ends : (Segment.number numeral).EndsBefore later)
    (front : numeral.whole.head? = some character) (line : scanner.cursor.place.line ≠ 0) :
    (scanner.reading [character]).scanNumber = scanner.afterSegment (.number numeral) := by
  have read := advanceNumeral_reading unread wellFormed ends front
  have parsed := Number.Numeral.ofText?_text wellFormed
  simp only [scanNumber, read, withCursor_reading, lexeme_reading, parsed]
  exact push_reading _ line (Segment.isBlank_text_number wellFormed) _ _

theorem scanNumber_first (line : scanner.cursor.place.line ≠ 0)
    (unread : scanner.cursor.ahead = character :: rest) (digit : isDigit character = true) :
    (scanner.reading [character]).scanNumber =
      scanner.afterSegment (Segment.first character rest) := by
  have form := Segment.first_of_isDigit digit rest
  have front : (Segment.longestNumeral (character :: rest)).whole.head? = some character := by
    simp [Segment.longestNumeral, digit]
  have wellFormed := Segment.first_wellFormed character rest
  have whole := Segment.text_first_append_drop character rest
  have ends := Segment.first_endsBefore whole
  rw [form] at wellFormed whole ends ⊢
  exact scanNumber_reading (unread.trans whole.symm) wellFormed ends front line

theorem scanWord_first (line : scanner.cursor.place.line ≠ 0)
    (unread : scanner.cursor.ahead = character :: rest) (letter : isLetter character = true) :
    (scanner.reading [character]).scanWord =
      scanner.afterSegment (Segment.first character rest) := by
  have form := Segment.first_of_isLetter letter rest
  have wellFormed := Segment.first_wellFormed character rest
  have whole := Segment.text_first_append_drop character rest
  have ends := Segment.first_endsBefore whole
  rw [form] at wellFormed whole ends ⊢
  have read := advanceWhile_reading [character] (unread.trans whole.symm) (by decide)
    (fun _ => List.mem_takeWhile_imp) ends
  simp only [List.cons_append, List.nil_append] at read
  simp only [scanWord, read, withCursor_reading, lexeme_reading]
  exact push_reading (.word (character :: rest.takeWhile isWordCharacter)) line
    (Segment.isBlank_text_word wellFormed) _ _

/-- A character that is no mark begins a number, a word or nothing. -/
theorem scanUnmarked_first (line : scanner.cursor.place.line ≠ 0)
    (unread : scanner.cursor.ahead = character :: rest) (blank : isSeparator character = false)
    (quote : character ≠ '"') (unbegun : ∀ mark : Symbol, mark.text.head? ≠ some character) :
    (scanner.reading [character]).scanUnmarked character =
      scanner.afterSegment (Segment.first character rest) := by
  unfold scanUnmarked
  split
  · next digit => exact scanNumber_first line unread digit
  · split
    · next letter => exact scanWord_first line unread letter
    · next digit letter =>
        simp only [Bool.not_eq_true] at digit letter
        have wellFormed : (Segment.stray character).WellFormed :=
          ⟨blank, quote, digit, letter, unbegun⟩
        have ends : (Segment.stray character).EndsBefore rest := trivial
        have form : Segment.first character rest = .stray character :=
          Segment.first_eq wellFormed ends rfl
        have newLine : character ≠ '\n' := by
          rintro rfl
          contradiction
        have sameLine : (scanner.reading [character]).cursor.place.line =
            scanner.cursor.place.line := by
          simp [reading, withCursor, Cursor.past, Cursor.beginLexeme, Place.after, Text.lineFeeds,
            newLine]
        rw [form, fail, sameLine]
        rfl

/-- After any character but a line feed the lexeme goes on as the first segment does. -/
theorem scanAfter_first (line : scanner.cursor.place.line ≠ 0)
    (unread : scanner.cursor.ahead = character :: rest) (sameLine : character ≠ '\n') :
    (scanner.reading [character]).scanAfter character =
      scanner.afterSegment (Segment.first character rest) := by
  unfold scanAfter
  split
  -- The ten marks that stand alone, then the four that an equals sign continues.
  iterate 10
    · exact pushSymbol_first line rfl (by simp [Segment.EndsBefore, Symbol.growsBy_iff])
  iterate 4
    · exact pushWithEqual_first line unread rfl rfl (by decide)
  · exact scanSlash_first line unread
  iterate 3
    · rw [Segment.first_of_isSeparator rfl]
      rfl
  · contradiction
  · exact scanString_first line unread
  · apply scanUnmarked_first line unread
    · simp only [isSeparator, Bool.or_eq_false_iff, decide_eq_false_iff_not]
      refine ⟨⟨⟨?_, ?_⟩, ?_⟩, ?_⟩ <;> assumption
    · assumption
    · intro mark begins
      cases mark <;> cases begins <;> contradiction

/-- Reading a lexeme is going over the first segment and adding what it gives. -/
theorem scanLexeme_first (line : scanner.cursor.place.line ≠ 0)
    (unread : scanner.cursor.ahead = character :: rest) :
    scanner.scanLexeme = scanner.afterSegment (Segment.first character rest) := by
  have start : scanner.scanLexeme =
      (scanner.withCursor scanner.cursor.beginLexeme.advance).scanAfter character := by
    simp [scanLexeme, Cursor.peek?, Cursor.beginLexeme, unread]
  rw [start]
  by_cases newLine : character = '\n'
  · subst newLine
    have ahead : scanner.cursor.beginLexeme.ahead = '\n' :: rest := unread
    have read : scanner.cursor.beginLexeme.advance.countLine =
        scanner.cursor.beginLexeme.past ['\n'] := by
      rw [Cursor.countLine_advance, Cursor.countLine_advance_eq_past ahead]
    rw [Segment.first_of_isSeparator rfl]
    exact congrArg scanner.withCursor read
  · rw [advance_reading unread newLine]
    exact scanAfter_first line unread newLine

end Scanner

end LoxLexer
