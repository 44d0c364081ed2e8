/-
# Lines agree with the text

The scanner counts line feeds in two ways, between lexemes and inside strings,
and it remembers the line on which a lexeme begins. All the same the line of a
token, of the end and of a diagnostic is one more than the number of line feeds
before it.
-/

import LoxLexer.Proofs.Scan.Findings

namespace LoxLexer

/-- The line of an offset: one more than the number of line feeds before it. -/
def Text.IsLineAt (source : List Char) (offset line : Nat) : Prop :=
  ∃ before after, splitAtByte? offset source = some (before, after) ∧
    line = 1 + lineFeeds before

theorem Text.isLineAt_append (before later : List Char) :
    IsLineAt (before ++ later) (byteSize before) (1 + lineFeeds before) :=
  ⟨before, later, splitAtByte?_append before later, rfl⟩

theorem Text.isLineAt_end (source : List Char) :
    IsLineAt source (byteSize source) (1 + lineFeeds source) := by
  have ended := isLineAt_append source []
  rwa [List.append_nil] at ended

namespace PlacedSegment

/-- A diagnostic belongs to the beginning of its segment, or to the end of an open string. -/
theorem place_of_diagnostic? {file : String} {placed : PlacedSegment} {diagnostic : Diagnostic}
    (gives : placed.diagnostic? file = some diagnostic) :
    ((∃ character, placed.segment = .stray character) ∧
        diagnostic.cause ≠ .unterminatedString ∧
        (⟨diagnostic.position.offset, diagnostic.line⟩ : Place) = placed.place) ∨
      ((∃ content, placed.segment = .openString content) ∧
        (⟨diagnostic.position.offset, diagnostic.line⟩ : Place) = placed.stop) := by
  unfold diagnostic? finding? at gives
  split at gives <;> cases gives
  case h_7 character form => exact .inl ⟨⟨character, form⟩, nofun, rfl⟩
  case h_8 content form => exact .inr ⟨⟨content, form⟩, rfl⟩

end PlacedSegment

namespace Scan

variable {keywords : KeywordTable} {file : String} {source : List Char}

theorem isLineAt_of_mem_tokens {token : Token}
    (member : token ∈ (ofSource keywords file source).tokens) :
    Text.IsLineAt source token.span.start token.line := by
  obtain ⟨segments, division⟩ := Division.exists_division source
  rw [tokens_ofSource division, List.mem_append, List.mem_filterMap, List.mem_singleton] at member
  rcases member with ⟨placed, stands, gives⟩ | rfl
  · obtain ⟨before, later, rfl, reached, -⟩ := division.exists_of_mem_layOut stands
    obtain ⟨offset, line⟩ := PlacedSegment.place_of_token? gives
    rw [offset, line, reached, Place.start_after, List.append_assoc]
    exact Text.isLineAt_append before _
  · rw [Place.start_after]
    exact Text.isLineAt_end source

/-- A diagnostic has the line of its offset; an open string has the last line. -/
theorem isLineAt_of_mem_diagnostics {diagnostic : Diagnostic}
    (member : diagnostic ∈ (ofSource keywords file source).diagnostics) :
    Text.IsLineAt source diagnostic.position.offset diagnostic.line ∧
      (diagnostic.cause = .unterminatedString →
        diagnostic.position.offset = Text.byteSize source ∧
          diagnostic.line = 1 + Text.lineFeeds source) := by
  obtain ⟨segments, division⟩ := Division.exists_division source
  rw [diagnostics_ofSource division, List.mem_filterMap] at member
  obtain ⟨placed, stands, gives⟩ := member
  obtain ⟨before, later, whole, reached, -, ends⟩ := division.exists_of_mem_layOut stands
  rcases PlacedSegment.place_of_diagnostic? gives with ⟨-, other, place⟩ | ⟨⟨content, form⟩, place⟩
  · rw [Place.start_after] at reached
    obtain ⟨offset, line⟩ := Place.mk.inj (place.trans reached)
    refine ⟨?_, fun open_ => absurd open_ other⟩
    rw [offset, line, whole, List.append_assoc]
    exact Text.isLineAt_append before _
  · obtain rfl : later = [] := by
      rw [form] at ends
      exact ends
    have stop : placed.stop = ⟨Text.byteSize source, 1 + Text.lineFeeds source⟩ := by
      rw [PlacedSegment.stop, reached, ← Place.after_append, whole, List.append_nil,
        Place.start_after]
    obtain ⟨offset, line⟩ := Place.mk.inj (place.trans stop)
    rw [offset, line]
    exact ⟨Text.isLineAt_end source, fun _ => ⟨rfl, rfl⟩⟩

/-- Every token has the line of its first character and every diagnostic has the
line of its offset. The closing token and an open string have the last line. -/
theorem line_eq_line_feeds_before (keywords : KeywordTable) (file : String)
    (source : List Char) :
    (∀ token ∈ (ofSource keywords file source).tokens,
        Text.IsLineAt source token.span.start token.line) ∧
      (∃ earlier last, (ofSource keywords file source).tokens = earlier ++ [last] ∧
        last.kind = .endOfFile ∧ last.span.start = Text.byteSize source ∧
        last.line = 1 + Text.lineFeeds source) ∧
      ∀ diagnostic ∈ (ofSource keywords file source).diagnostics,
        Text.IsLineAt source diagnostic.position.offset diagnostic.line ∧
          (diagnostic.cause = .unterminatedString →
            diagnostic.position.offset = Text.byteSize source ∧
              diagnostic.line = 1 + Text.lineFeeds source) := by
  refine ⟨fun token => isLineAt_of_mem_tokens, ?_, fun diagnostic => isLineAt_of_mem_diagnostics⟩
  obtain ⟨segments, division⟩ := Division.exists_division source
  refine ⟨_, _, tokens_ofSource division keywords file, rfl, ?_, ?_⟩
  · rw [Place.start_after]
    rfl
  · rw [Place.start_after]
    rfl

end Scan

end LoxLexer
