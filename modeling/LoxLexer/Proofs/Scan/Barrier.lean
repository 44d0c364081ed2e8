/-
# A line feed is a barrier

No segment but an open string goes over a line feed, unless the line feed is
inside a closed string. So a text without an open string can be scanned apart
from what stands behind it on later lines.
-/

import LoxLexer.Proofs.Scan.Shift

namespace LoxLexer

/-- A run that ends before a text also ends before the text with a new line behind it. -/
theorem EndsRun.append_line_feed {allowed : Char → Bool} {later : List Char}
    (ends : EndsRun allowed later) (sameLine : allowed '\n' = false) (more : List Char) :
    EndsRun allowed (later ++ '\n' :: more) := by
  cases later with
  | nil =>
      rintro next ⟨⟩
      exact sameLine
  | cons first rest => exact ends

namespace Segment

/-- A new line behind the text that follows changes no segment but an open string. -/
theorem EndsBefore.append_line_feed {segment : Segment} {later : List Char}
    (ends : segment.EndsBefore later) (closed : ∀ content, segment ≠ .openString content)
    (more : List Char) : segment.EndsBefore (later ++ '\n' :: more) := by
  cases segment with
  | blank | string | stray => trivial
  | comment remark => exact EndsRun.append_line_feed ends rfl more
  | symbol mark =>
      cases later with
      | nil =>
          refine ⟨?_, fun _ => nofun⟩
          rintro next ⟨⟩ grows
          obtain ⟨equal, -⟩ := Symbol.growsBy_iff.mp grows
          contradiction
      | cons first rest => exact ends
  | number numeral =>
      obtain ⟨ends, point⟩ := ends
      refine ⟨ends.append_line_feed rfl more, ?_⟩
      intro noFraction dot
      cases later with
      | nil => simp at dot
      | cons first rest => exact (point noFraction dot).append_line_feed rfl more
  | word letters => exact EndsRun.append_line_feed ends rfl more
  | openString content => exact absurd rfl (closed content)

end Segment

/-- Two divisions are joined by a line feed if the first one leaves no string open. -/
theorem Division.append_line_feed {first second : List Char} {segments later : List Segment}
    (division : Division first segments) (behind : Division second later)
    (closed : ∀ content, .openString content ∉ segments) :
    Division (first ++ '\n' :: second) (segments ++ .blank '\n' :: later) := by
  induction division with
  | nil => exact .cons (.blank '\n') rfl trivial behind
  | @cons segment rest segments wellFormed ends _ ih =>
      have alone : ∀ content, segment ≠ .openString content := by
        rintro content rfl
        exact closed content List.mem_cons_self
      have others : ∀ content, .openString content ∉ segments :=
        fun content member => closed content (List.mem_cons_of_mem _ member)
      rw [List.append_assoc]
      exact .cons _ wellFormed (ends.append_line_feed alone second) (ih others)

theorem Place.map_segment_layOut (place : Place) (segments : List Segment) :
    (place.layOut segments).map PlacedSegment.segment = segments := by
  induction segments generalizing place with
  | nil => rfl
  | cons segment later ih => rw [layOut, List.map_cons, ih]

namespace Scan

/-- A scan without an unterminated string has no open string among its segments. -/
theorem openString_not_mem {keywords : KeywordTable} {file : String} {source : List Char}
    {segments : List Segment} (division : Division source segments)
    (closed : ∀ diagnostic ∈ (ofSource keywords file source).diagnostics,
      diagnostic.cause ≠ .unterminatedString) (content : List Char) :
    .openString content ∉ segments := by
  intro member
  rw [← Place.start.map_segment_layOut segments] at member
  obtain ⟨placed, stands, form⟩ := List.mem_map.mp member
  have gives : placed.diagnostic? file =
      some ⟨.unterminatedString, ⟨placed.stop.offset, file⟩, placed.stop.line⟩ := by
    simp [PlacedSegment.diagnostic?, PlacedSegment.finding?, form, Finding.diagnostic?]
  have reported := List.mem_filterMap.mpr ⟨placed, stands, gives⟩
  rw [← diagnostics_ofSource division keywords] at reported
  exact closed _ reported rfl

theorem endToken_append_line_feed (file : String) (first second : List Char) :
    endToken file (Place.start.after (first ++ '\n' :: second)) =
      (endToken file (Place.start.after second)).shift
        (Text.byteSize first + 1) (Text.lineFeeds first + 1) := by
  have size : Char.utf8Size '\n' = 1 := rfl
  simp only [endToken, Token.shift, Place.start_after, Text.byteSize_append, Text.byteSize_cons,
    Text.lineFeeds, List.count_append, List.count_cons_self, size, Token.mk.injEq, Span.mk.injEq,
    true_and]
  omega

/-- A text that leaves no string open and what stands on later lines are scanned
apart; the second scan is moved behind the first text and its line feed. -/
theorem scan_append_line_feed (keywords : KeywordTable) (file : String)
    (first second : List Char)
    (closed : ∀ diagnostic ∈ (ofSource keywords file first).diagnostics,
      diagnostic.cause ≠ .unterminatedString) :
    (ofSource keywords file (first ++ '\n' :: second)).tokens =
        (ofSource keywords file first).tokens.dropLast ++
          (ofSource keywords file second).tokens.map
            (Token.shift (Text.byteSize first + 1) (Text.lineFeeds first + 1)) ∧
      (ofSource keywords file (first ++ '\n' :: second)).diagnostics =
        (ofSource keywords file first).diagnostics ++
          (ofSource keywords file second).diagnostics.map
            (Diagnostic.shift (Text.byteSize first + 1) (Text.lineFeeds first + 1)) := by
  obtain ⟨segments, division⟩ := Division.exists_division first
  obtain ⟨later, behind⟩ := Division.exists_division second
  have joined := division.append_line_feed behind (openString_not_mem division closed)
  have placed : Place.start.layOut (segments ++ .blank '\n' :: later) =
      Place.start.layOut segments ++ ⟨.blank '\n', Place.start.after first⟩ ::
        (Place.start.shift (Text.byteSize first + 1) (Text.lineFeeds first + 1)).layOut later := by
    rw [Place.layOut_append, division.flatMap_text]
    rfl
  constructor
  · rw [tokens_ofSource joined, tokens_ofSource division, tokens_ofSource behind, placed,
      List.filterMap_append, List.filterMap_cons, filterMap_token?_shift, List.dropLast_concat,
      List.map_append, endToken_append_line_feed]
    simp [PlacedSegment.token?, PlacedSegment.finding?]
  · rw [diagnostics_ofSource joined, diagnostics_ofSource division, diagnostics_ofSource behind,
      placed, List.filterMap_append, List.filterMap_cons, filterMap_diagnostic?_shift]
    rfl

theorem scan_append_line_feed_point_digit :
    (∀ diagnostic ∈ (ofSource .builtin "shell" ['#', '3', '.']).diagnostics,
        diagnostic.cause ≠ .unterminatedString) ∧
      (ofSource .builtin "shell" ['#', '3', '.', '\n', '5', '"']).tokens =
        (ofSource .builtin "shell" ['#', '3', '.']).tokens.dropLast ++
          (ofSource .builtin "shell" ['5', '"']).tokens.map (Token.shift 4 1) ∧
      (ofSource .builtin "shell" ['#', '3', '.', '\n', '5', '"']).diagnostics =
        (ofSource .builtin "shell" ['#', '3', '.']).diagnostics ++
          (ofSource .builtin "shell" ['5', '"']).diagnostics.map (Diagnostic.shift 4 1) := by
  have closed : ∀ diagnostic ∈ (ofSource .builtin "shell" ['#', '3', '.']).diagnostics,
      diagnostic.cause ≠ .unterminatedString := by decide +kernel
  exact ⟨closed, scan_append_line_feed .builtin "shell" ['#', '3', '.'] ['5', '"'] closed⟩

end Scan

end LoxLexer
