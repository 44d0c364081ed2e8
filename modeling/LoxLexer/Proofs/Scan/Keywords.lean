/-
# Keywords decide the kinds of words and nothing else

A scan looks a word up only after the whole word was read, and whatever the table
says, it reads on from the same place. So two scans of a source with different
tables find the same tokens and diagnostics, but for the kinds of those words on
which the tables disagree. A table may even call a word the end of the file.
-/

import LoxLexer.Proofs.Scan.Findings
import Mathlib.Data.List.Forall2

namespace LoxLexer

namespace Segment

/-- Only words begin with letters. -/
theorem exists_eq_word {segment : Segment} (wellFormed : segment.WellFormed)
    (isWord : (word segment.text).WellFormed) : ∃ letters, segment = word letters := by
  obtain ⟨⟨initial, begins, letter⟩, -⟩ := isWord
  obtain ⟨rest, whole⟩ := List.head?_eq_some_iff.mp begins
  have first := first_eq wellFormed segment.endsBefore_nil ((List.append_nil _).trans whole)
  rw [first_of_isLetter letter] at first
  exact ⟨_, first.symm⟩

end Segment

/-- Two tokens that keyword tables make of one lexeme. They have different kinds just
if the lexeme is a word that the tables take for different things as a whole. -/
structure Token.SameButKind (first second : KeywordTable) (one other : Token) : Prop where
  lexeme : one.lexeme = other.lexeme
  literal : one.literal = other.literal
  line : one.line = other.line
  span : one.span = other.span
  kind : one.kind ≠ other.kind ↔
    (Segment.word one.lexeme.toList).WellFormed ∧
      first.kindOf one.lexeme ≠ second.kindOf one.lexeme

/-- A token whose lexeme is no word is the same with any table. -/
theorem Token.sameButKind_self {token : Token}
    (unworded : ¬ (Segment.word token.lexeme.toList).WellFormed) (first second : KeywordTable) :
    token.SameButKind first second token where
  lexeme := rfl
  literal := rfl
  line := rfl
  span := rfl
  kind := by simp [unworded]

namespace PlacedSegment

/-- A segment gives the same token with any two tables, but for its kind. -/
theorem rel_token? {placed : PlacedSegment} (wellFormed : placed.segment.WellFormed)
    (first second : KeywordTable) (file : String) :
    Option.Rel (Token.SameButKind first second) (placed.token? first file)
      (placed.token? second file) := by
  obtain ⟨segment, place⟩ := placed
  have unworded {kind : TokenKind} {literal : Option Literal}
      (other : ∀ letters, segment ≠ .word letters) :
      ¬ (Segment.word (token ⟨segment, place⟩ file kind literal).lexeme.toList).WellFormed := by
    intro isWord
    rw [token, String.toList_ofList] at isWord
    obtain ⟨letters, form⟩ := Segment.exists_eq_word wellFormed isWord
    exact other letters form
  cases segment with
  | blank | comment | stray | openString => exact .none
  | symbol | string | number =>
      exact .some (Token.sameButKind_self (unworded (by simp)) first second)
  | word letters =>
      refine .some ⟨rfl, rfl, rfl, rfl, ?_⟩
      have isWord : (Segment.word (String.ofList letters).toList).WellFormed := by
        rwa [String.toList_ofList]
      exact ⟨fun differ => ⟨isWord, differ⟩, fun differ => differ.2⟩

/-- Only a word is the end of the file, and only if the table says so. -/
theorem find?_of_kind_eq_endOfFile {placed : PlacedSegment}
    (wellFormed : placed.segment.WellFormed) {keywords : KeywordTable} {file : String}
    {token : Token} (gives : placed.token? keywords file = some token)
    (ended : token.kind = .endOfFile) :
    (Segment.word token.lexeme.toList).WellFormed ∧
      keywords.find? token.lexeme = some .endOfFile := by
  obtain ⟨segment, place⟩ := placed
  cases segment <;> cases gives
  case word letters =>
      have lexeme : (String.ofList letters).toList = letters := String.toList_ofList
      refine ⟨lexeme.symm ▸ wellFormed, ?_⟩
      exact KeywordTable.kindOf_eq_endOfFile_iff.mp ended
  all_goals cases ended

end PlacedSegment

namespace Scan

/-- The tokens of two scans of a source differ in nothing but the kinds of words. -/
theorem forall₂_tokens_sameButKind (first second : KeywordTable) (file : String)
    (source : List Char) :
    List.Forall₂ (Token.SameButKind first second) (ofSource first file source).tokens
      (ofSource second file source).tokens := by
  obtain ⟨segments, division⟩ := Division.exists_division source
  rw [tokens_ofSource division, tokens_ofSource division]
  have same : List.Forall₂ (fun one other => one = other ∧ one.segment.WellFormed)
      (Place.start.layOut segments) (Place.start.layOut segments) := by
    rw [List.forall₂_same]
    intro placed member
    obtain ⟨-, -, -, -, wellFormed, -⟩ := division.exists_of_mem_layOut member
    exact ⟨rfl, wellFormed⟩
  apply List.rel_append
  · refine List.rel_filterMap ?_ same
    rintro placed _ ⟨rfl, wellFormed⟩
    exact PlacedSegment.rel_token? wellFormed first second file
  · refine .cons (Token.sameButKind_self ?_ first second) .nil
    rintro ⟨⟨initial, begins, -⟩, -⟩
    contradiction

/-- Whatever two keyword tables say, they change nothing in the scan of a source but
the kinds of the words on which they disagree. The last token is the end of the file,
and no other one is unless the table says so of its whole lexeme. -/
theorem keywords_decide_kinds_of_words (first second : KeywordTable) (file : String)
    (source : List Char) :
    (ofSource first file source).diagnostics = (ofSource second file source).diagnostics ∧
    (ofSource first file source).tokens.length = (ofSource second file source).tokens.length ∧
    List.Forall₂ (Token.SameButKind first second) (ofSource first file source).tokens
      (ofSource second file source).tokens ∧
    ∃ earlier last, (ofSource first file source).tokens = earlier ++ [last] ∧
      last.kind = .endOfFile ∧ last.lexeme = "" ∧
      ∀ token ∈ earlier, token.kind = .endOfFile →
        (Segment.word token.lexeme.toList).WellFormed ∧
          first.find? token.lexeme = some .endOfFile := by
  have tokens := forall₂_tokens_sameButKind first second file source
  obtain ⟨segments, division⟩ := Division.exists_division source
  refine ⟨?_, tokens.length_eq, tokens, _, _, tokens_ofSource division first file, rfl, rfl, ?_⟩
  · rw [diagnostics_ofSource division, diagnostics_ofSource division]
  · intro token member ended
    obtain ⟨placed, stands, gives⟩ := List.mem_filterMap.mp member
    obtain ⟨-, -, -, -, wellFormed, -⟩ := division.exists_of_mem_layOut stands
    exact PlacedSegment.find?_of_kind_eq_endOfFile wellFormed gives ended

end Scan

end LoxLexer
