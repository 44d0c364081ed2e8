/-
# Displayed numbers scan back

The double of a number token has no sign. If it is zero or in the plain range, it is
displayed by a numeral that denotes it and has digits on both sides of the point. So a
scan reads this numeral as a whole: no digit and no point is left behind it, and there
is nothing else to find.
-/

import LoxLexer.Proofs.Number.Positional
import LoxLexer.Proofs.Scan.Findings

namespace LoxLexer

/-- A segment that keeps the rules is the division of its text. -/
theorem Division.single {segment : Segment} (wellFormed : segment.WellFormed) :
    Division segment.text [segment] := by
  have whole := Division.cons segment wellFormed segment.endsBefore_nil .nil
  rwa [List.append_nil] at whole

namespace Number.Numeral

variable {numeral : Numeral} {double : Binary64}

/-- A numeral that shows a double keeps the rules. -/
theorem Shows.wellFormed (shown : numeral.Shows double) : (Segment.number numeral).WellFormed := by
  refine ⟨shown.whole, ?_, ?_⟩
  · exact fun digit member => shown.isDigit digit (List.mem_append_left _ member)
  · exact fun digit member => shown.isDigit digit (List.mem_append_right _ member)

/-- A numeral is on one line. -/
theorem lineFeeds_text (wellFormed : (Segment.number numeral).WellFormed) :
    Text.lineFeeds numeral.text = 0 := by
  obtain ⟨-, whole, fraction⟩ := wellFormed
  have absent {digits : List Char} (digit : ∀ character ∈ digits, isDigit character = true) :
      '\n' ∉ digits := by
    intro member
    exact absurd (digit '\n' member) (by decide)
  rw [Text.lineFeeds, List.count_eq_zero, text]
  split
  · exact absent whole
  · next fractional =>
      rw [fractional] at fraction
      rw [List.mem_append, List.mem_cons, not_or, not_or]
      exact ⟨absent whole, by decide, absent fraction⟩

end Number.Numeral

namespace Scan

open Number

variable {keywords : KeywordTable} {file : String} {source : List Char} {token : Token}
  {double : Binary64}

/-! ## Numbers of a source -/

/-- The double of a number token was read from a numeral. -/
theorem exists_denotation_of_mem_tokens
    (member : token ∈ (ofSource keywords file source).tokens)
    (number : token.literal = some (.number double)) :
    ∃ numeral : Numeral, numeral.denotation = double := by
  obtain ⟨segments, division⟩ := Division.exists_division source
  rw [tokens_ofSource division, List.mem_append, List.mem_filterMap, List.mem_singleton] at member
  rcases member with ⟨⟨segment, place⟩, -, gives⟩ | rfl
  · cases segment <;> cases gives <;> cases number
    exact ⟨_, rfl⟩
  · contradiction

/-- Every number token has a double if no word is taken for a number. -/
theorem exists_literal_of_kind_eq_number (noWord : ∀ word, keywords.find? word ≠ some .number)
    (member : token ∈ (ofSource keywords file source).tokens) (number : token.kind = .number) :
    ∃ double, token.literal = some (.number double) := by
  obtain ⟨segments, division⟩ := Division.exists_division source
  rw [tokens_ofSource division, List.mem_append, List.mem_filterMap, List.mem_singleton] at member
  rcases member with ⟨⟨segment, place⟩, -, gives⟩ | rfl
  · cases segment with
    | number numeral =>
        cases gives
        exact ⟨_, rfl⟩
    | word letters =>
        cases gives
        exact absurd ((KeywordTable.kindOf_eq_iff TokenKind.noConfusion).mp number) (noWord _)
    | blank | comment | symbol | string | stray | openString => cases gives <;> contradiction
  · contradiction

/-! ## Scans of a display -/

/-- A text is a plain numeral that shows a double, and any scan of it finds one number,
with the whole text as its lexeme and the double as its literal, and then the end. -/
structure ScansBack (text : String) (double : Binary64) : Prop where
  shown : ∃ numeral : Numeral, text = String.ofList numeral.text ∧ numeral.Shows double
  diagnostics : ∀ (keywords : KeywordTable) (file : String),
    (ofSource keywords file text.toList).diagnostics = []
  tokens : ∀ (keywords : KeywordTable) (file : String),
    (ofSource keywords file text.toList).tokens =
      [{ kind := .number, lexeme := text, literal := some (.number double), line := 1,
         span := ⟨file, 0, Text.byteSize text.toList⟩ },
       endToken file ⟨Text.byteSize text.toList, 1⟩]

theorem scansBack_of_shows {numeral : Numeral} (shown : numeral.Shows double) :
    ScansBack (String.ofList numeral.text) double := by
  have division : Division numeral.text [.number numeral] := Division.single shown.wellFormed
  have stop : Place.start.after numeral.text = ⟨Text.byteSize numeral.text, 1⟩ := by
    rw [Place.start_after, Numeral.lineFeeds_text shown.wellFormed]
  constructor
  case shown => exact ⟨numeral, rfl, shown⟩
  case diagnostics =>
    intro keywords file
    rw [String.toList_ofList, diagnostics_ofSource division]
    rfl
  case tokens =>
    intro keywords file
    have gives : PlacedSegment.token? keywords file ⟨.number numeral, .start⟩ =
        some ⟨.number, String.ofList numeral.text, some (.number numeral.denotation), 1,
          ⟨file, 0, (Place.start.after numeral.text).offset⟩⟩ := rfl
    rw [String.toList_ofList, tokens_ofSource division, Place.layOut, Place.layOut,
      List.filterMap_cons_some gives, shown.denotes, stop]
    rfl

/-- With the keywords of the language every number token has a double. Whatever the
keywords and whatever its digits are, a double that is zero or in the plain range is
displayed by a text that scans back to it. -/
theorem displayed_numbers_scan_back :
    (∀ (source : String) (file : Option String), ∀ token ∈ (ofText source file).tokens,
      token.kind = .number → ∃ double, token.literal = some (.number double)) ∧
    ∀ (keywords : KeywordTable) (file : String) (source : List Char),
      ∀ token ∈ (ofSource keywords file source).tokens,
      ∀ double : Binary64, token.literal = some (.number double) →
        (codeValue double.code = 0 ∨
          1 / 10000 ≤ codeValue double.code ∧ codeValue double.code < 10 ^ 16) →
        ScansBack (Literal.number double).display double := by
  constructor
  · intro source file token member number
    exact exists_literal_of_kind_eq_number KeywordTable.find?_builtin_ne_number member number
  · intro keywords file source token member double number plain
    obtain ⟨numeral, rfl⟩ := exists_denotation_of_mem_tokens member number
    obtain ⟨display, same, shown⟩ :=
      Binary64.exists_shows_display (Binary64.isNegative_nearest _) plain
    rw [Literal.display, Numeral.denotation, same]
    exact scansBack_of_shows shown

/-- The number is halfway between two doubles, and its double is a whole number. -/
theorem displayed_numbers_scan_back_halfway :
    let token : Token :=
      ⟨.number, "9007199254740993", some (.number ⟨0x4340000000000000⟩), 1, ⟨"shell", 1, 17⟩⟩
    token ∈ (ofText "-9007199254740993" none).tokens ∧ token.kind = .number ∧
      (∃ double, token.literal = some (.number double)) ∧
      1 / 10000 ≤ codeValue 0x4340000000000000 ∧ codeValue 0x4340000000000000 < 10 ^ 16 ∧
      ScansBack "9007199254740992.0" ⟨0x4340000000000000⟩ := by
  intro token
  have member : token ∈ (ofText "-9007199254740993" none).tokens := by decide +kernel
  have large : 1 / 10000 ≤ codeValue 0x4340000000000000 := by decide +kernel
  have small : codeValue 0x4340000000000000 < 10 ^ 16 := by decide +kernel
  have back := displayed_numbers_scan_back.2 .builtin "shell" _ token member
    ⟨0x4340000000000000⟩ rfl (.inr ⟨large, small⟩)
  have display : (Literal.number ⟨0x4340000000000000⟩).display = "9007199254740992.0" := by
    decide +kernel
  rw [display] at back
  exact ⟨member, rfl, displayed_numbers_scan_back.1 _ none token member rfl, large, small, back⟩

end Scan

end LoxLexer
