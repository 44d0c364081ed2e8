/-
# What a scan reports and what it accepts

Every diagnostic of a scan stands where its source can be cut, on the line that
goes on there, and names the file of the scan. It is about a character that is
no line feed or about a string that is not closed.

A token is rejected if it has no line or nothing visible in its lexeme. A scan never
makes one that is: what becomes a token begins with a visible character, whatever kind
the keyword table gives to a word, and lines are counted from one.
-/

import LoxLexer.Proofs.Scan.Layout
import LoxLexer.Proofs.Scan.Lines

namespace LoxLexer

/-- Is the cause one of the two that are found in sources? -/
inductive Cause.IsReported : Cause → Prop
  | unexpectedCharacter {character : Char} (sameLine : character ≠ '\n') :
      IsReported (.unexpectedCharacter character)
  | unterminatedString : IsReported .unterminatedString

theorem PlacedSegment.isReported_of_diagnostic? {file : String} {placed : PlacedSegment}
    {diagnostic : Diagnostic} (wellFormed : placed.segment.WellFormed)
    (gives : placed.diagnostic? file = some diagnostic) :
    diagnostic.cause.IsReported ∧ diagnostic.position.file = file := by
  unfold diagnostic? finding? at gives
  split at gives <;> cases gives
  case h_7 character form =>
      refine ⟨.unexpectedCharacter ?_, rfl⟩
      rintro rfl
      rw [form] at wellFormed
      have separates := wellFormed.1
      contradiction
  case h_8 => exact ⟨.unterminatedString, rfl⟩

namespace Scan

variable {keywords : KeywordTable} {file : String} {source : List Char} {diagnostic : Diagnostic}

theorem isReported_of_mem_diagnostics
    (member : diagnostic ∈ (ofSource keywords file source).diagnostics) :
    diagnostic.cause.IsReported ∧ diagnostic.position.file = file := by
  obtain ⟨segments, division⟩ := Division.exists_division source
  rw [diagnostics_ofSource division, List.mem_filterMap] at member
  obtain ⟨placed, stands, gives⟩ := member
  obtain ⟨-, -, -, -, wellFormed, -⟩ := division.exists_of_mem_layOut stands
  exact PlacedSegment.isReported_of_diagnostic? wellFormed gives

/-- A diagnostic stands between two parts of the source, on the line of the second one. -/
theorem exists_cut_of_mem_diagnostics
    (member : diagnostic ∈ (ofSource keywords file source).diagnostics) :
    ∃ before later, source = before ++ later ∧
      diagnostic.position.offset = Text.byteSize before ∧
      diagnostic.line = 1 + Text.lineFeeds before := by
  obtain ⟨⟨before, later, cut, line⟩, -⟩ := isLineAt_of_mem_diagnostics member
  obtain ⟨whole, offset⟩ := Text.append_eq_of_splitAtByte? cut
  exact ⟨before, later, whole.symm, offset.symm, line⟩

end Scan

/-! ## Tokens are valid -/

/-- What becomes a token is visible, even if it is a word that is taken for the end
of the file. -/
theorem PlacedSegment.isBlank_lexeme_of_token? {keywords : KeywordTable} {file : String}
    {placed : PlacedSegment} {token : Token} (wellFormed : placed.segment.WellFormed)
    (gives : placed.token? keywords file = some token) :
    Text.isBlank token.lexeme.toList = false := by
  obtain ⟨segment, place⟩ := placed
  rw [lexeme_of_token? gives]
  cases segment with
  | blank | comment | stray | openString => contradiction
  | symbol mark => exact mark.isBlank_text
  | string content => exact isBlank_eq_false_of_head rfl rfl
  | number numeral => exact Segment.isBlank_text_number wellFormed
  | word letters => exact Segment.isBlank_text_word wellFormed

theorem Token.validate_eq_ok {token : Token} (line : token.line ≠ 0)
    (visible : token.kind = .endOfFile ∨ Text.isBlank token.lexeme.toList = false) :
    token.validate = .ok token := by
  have faultless : token.fault? = none := by
    rw [fault?, if_neg line, isEndOfFile]
    rcases visible with ended | visible
    · simp [ended]
    · simp [visible]
  rw [validate, faultless]

namespace Scan

variable {keywords : KeywordTable} {file : String} {source : List Char} {token : Token}

theorem line_ne_zero_of_mem_tokens (member : token ∈ (ofSource keywords file source).tokens) :
    token.line ≠ 0 := by
  obtain ⟨before, -, -, line⟩ := isLineAt_of_mem_tokens member
  rw [line, Nat.add_comm]
  exact Nat.succ_ne_zero _

/-- Every token of a scan is accepted as it is. -/
theorem validate_of_mem_tokens (member : token ∈ (ofSource keywords file source).tokens) :
    token.validate = .ok token := by
  apply Token.validate_eq_ok (line_ne_zero_of_mem_tokens member)
  obtain ⟨segments, division⟩ := Division.exists_division source
  rw [tokens_ofSource division, List.mem_append, List.mem_filterMap, List.mem_singleton] at member
  rcases member with ⟨placed, stands, gives⟩ | rfl
  · obtain ⟨-, -, -, -, wellFormed, -⟩ := division.exists_of_mem_layOut stands
    exact .inr (PlacedSegment.isBlank_lexeme_of_token? wellFormed gives)
  · exact .inl rfl

end Scan

end LoxLexer
