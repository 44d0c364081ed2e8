/-
# Scanning is dividing

A whole scan goes over the segments of the source one after another. So its
tokens and its diagnostics are those of the placed segments, in order, with the
token for the end of the file after them.

The scanner reads characters and never looks at the grammar of segments. Still
its tokens and its diagnostics are those of the one division of the source that
keeps the rules of the grammar.
-/

import LoxLexer.Proofs.Scan.Lexeme

namespace LoxLexer

/-- Placing segments after each other places each at the end of those before it. -/
theorem Place.layOut_append (place : Place) (first second : List Segment) :
    place.layOut (first ++ second) =
      place.layOut first ++ (place.after (first.flatMap Segment.text)).layOut second := by
  induction first generalizing place with
  | nil => rfl
  | cons segment later ih => simp [layOut, ih, after_append]

/-- A placed segment of a division keeps the rules where it stands. -/
theorem Division.exists_of_mem_layOut {source : List Char} {segments : List Segment}
    (division : Division source segments) {place : Place} {placed : PlacedSegment}
    (member : placed ∈ place.layOut segments) :
    ∃ before later, source = before ++ placed.segment.text ++ later ∧
      placed.place = place.after before ∧ placed.segment.WellFormed ∧
      placed.segment.EndsBefore later := by
  induction division generalizing place with
  | nil => contradiction
  | @cons segment later segments wellFormed ends rest ih =>
      rcases List.mem_cons.mp member with rfl | member
      · exact ⟨[], later, rfl, rfl, wellFormed, ends⟩
      · obtain ⟨before, behind, rfl, reached, rules⟩ := ih member
        refine ⟨segment.text ++ before, behind, by simp, ?_, rules⟩
        rw [reached, Place.after_append]

namespace PlacedSegment

/-- The token that the segment gives, if it is one. -/
def token? (keywords : KeywordTable) (file : String) (placed : PlacedSegment) : Option Token :=
  (placed.finding? keywords file).bind Finding.token?

/-- A token begins where its segment stands. -/
theorem place_of_token? {keywords : KeywordTable} {file : String} {placed : PlacedSegment}
    {token : Token} (gives : placed.token? keywords file = some token) :
    token.span.start = placed.place.offset ∧ token.line = placed.place.line := by
  unfold token? finding? at gives
  split at gives <;> cases gives <;> exact ⟨rfl, rfl⟩

/-- The diagnostic that the segment gives, if there is one. -/
def diagnostic? (file : String) (placed : PlacedSegment) : Option Diagnostic :=
  (placed.finding? .empty file).bind Finding.diagnostic?

/-- No diagnostic depends on the kinds of words. -/
theorem diagnostic?_eq (keywords : KeywordTable) (file : String) (placed : PlacedSegment) :
    (placed.finding? keywords file).bind Finding.diagnostic? = placed.diagnostic? file := by
  cases form : placed.segment <;> simp [diagnostic?, finding?, form, Finding.diagnostic?]

end PlacedSegment

namespace Scanner

/-! ## The run over the segments -/

@[simp] theorem cursor_add (scanner : Scanner) (found : Option Finding) :
    (scanner.add found).cursor = scanner.cursor := by
  unfold add
  split <;> rfl

theorem keywords_afterSegment (scanner : Scanner) (segment : Segment) :
    (scanner.afterSegment segment).keywords = scanner.keywords := by
  unfold afterSegment add
  split <;> rfl

theorem file_afterSegment (scanner : Scanner) (segment : Segment) :
    (scanner.afterSegment segment).file = scanner.file := by
  unfold afterSegment add
  split <;> rfl

theorem findings_afterSegment (scanner : Scanner) (segment : Segment) :
    (scanner.afterSegment segment).findings =
      (PlacedSegment.finding? scanner.keywords scanner.file
        ⟨segment, scanner.cursor.place⟩).toList ++ scanner.findings := by
  unfold afterSegment add
  split <;> simp [*] <;> rfl

theorem errorCount_afterSegment (scanner : Scanner) (segment : Segment) :
    (scanner.afterSegment segment).errorCount =
      scanner.errorCount +
        (PlacedSegment.diagnostic? scanner.file ⟨segment, scanner.cursor.place⟩).toList.length := by
  rw [← PlacedSegment.diagnostic?_eq scanner.keywords]
  unfold afterSegment add
  split <;> simp [*, Finding.diagnostic?] <;> rfl

theorem ahead_afterSegment (scanner : Scanner) (segment : Segment) :
    (scanner.afterSegment segment).cursor.ahead =
      scanner.cursor.ahead.drop segment.text.length := by
  simp [afterSegment, ahead_reading]

theorem place_afterSegment (scanner : Scanner) (segment : Segment) :
    (scanner.afterSegment segment).cursor.place = scanner.cursor.place.after segment.text := by
  simp [afterSegment, reading, Cursor.past, Cursor.beginLexeme]

/-- The whole scan goes over the segments of what is ahead. -/
theorem scanAll_eq_foldl {scanner : Scanner} {segments : List Segment}
    (line : scanner.cursor.place.line ≠ 0) (division : Division scanner.cursor.ahead segments) :
    scanner.scanAll = segments.foldl afterSegment scanner := by
  generalize unread : scanner.cursor.ahead = text at division
  induction division generalizing scanner with
  | nil => rw [scanAll, dif_pos unread, List.foldl_nil]
  | @cons segment later segments wellFormed ends rest ih =>
      obtain ⟨character, more, front⟩ :=
        List.exists_cons_of_ne_nil (Segment.text_ne_nil_of_wellFormed wellFormed)
      have whole : segment.text ++ later = character :: (more ++ later) := by rw [front]; rfl
      have step : scanner.scanLexeme = scanner.afterSegment segment := by
        rw [scanLexeme_first line (unread.trans whole), Segment.first_eq wellFormed ends whole]
      have nonempty : scanner.cursor.ahead ≠ [] := by simp [unread, whole]
      rw [scanAll, dif_neg nonempty, step, List.foldl_cons]
      apply ih
      · rw [place_afterSegment]
        simp [Place.after, line]
      · rw [ahead_afterSegment, unread, List.drop_left]

/-- Going over segments adds what they give at their places. -/
theorem findings_foldl_afterSegment (segments : List Segment) (scanner : Scanner) :
    (segments.foldl afterSegment scanner).findings =
      ((scanner.cursor.place.layOut segments).filterMap
        (·.finding? scanner.keywords scanner.file)).reverse ++ scanner.findings := by
  induction segments generalizing scanner with
  | nil => rfl
  | cons segment later ih =>
      rw [List.foldl_cons, ih, place_afterSegment, Place.layOut, List.filterMap_cons]
      rw [keywords_afterSegment, file_afterSegment, findings_afterSegment]
      cases found : PlacedSegment.finding? scanner.keywords scanner.file
        ⟨segment, scanner.cursor.place⟩ with
      | none => rfl
      | some finding => simp

/-- Every diagnostic is counted once. -/
theorem errorCount_foldl_afterSegment (segments : List Segment) (scanner : Scanner) :
    (segments.foldl afterSegment scanner).errorCount =
      scanner.errorCount +
        ((scanner.cursor.place.layOut segments).filterMap
          (·.diagnostic? scanner.file)).length := by
  induction segments generalizing scanner with
  | nil => rfl
  | cons segment later ih =>
      rw [List.foldl_cons, ih, place_afterSegment, Place.layOut, List.filterMap_cons]
      rw [file_afterSegment, errorCount_afterSegment, Nat.add_assoc]
      cases found : PlacedSegment.diagnostic? scanner.file ⟨segment, scanner.cursor.place⟩ with
      | none => simp
      | some diagnostic => simp [Nat.add_comm]

theorem file_foldl_afterSegment (segments : List Segment) (scanner : Scanner) :
    (segments.foldl afterSegment scanner).file = scanner.file := by
  induction segments generalizing scanner with
  | nil => rfl
  | cons segment later ih => rw [List.foldl_cons, ih, file_afterSegment]

theorem place_foldl_afterSegment (segments : List Segment) (scanner : Scanner) :
    (segments.foldl afterSegment scanner).cursor.place =
      scanner.cursor.place.after (segments.flatMap Segment.text) := by
  induction segments generalizing scanner with
  | nil => rfl
  | cons segment later ih =>
      rw [List.foldl_cons, ih, place_afterSegment, List.flatMap_cons, Place.after_append]

end Scanner

/-! ## The whole scan -/

namespace Scan

/-- The token that stands at the end of the named source. -/
def endToken (file : String) (place : Place) : Token where
  kind := .endOfFile
  lexeme := ""
  literal := none
  line := place.line
  span := ⟨file, place.offset, place.offset⟩

theorem close_eq_note {scanner : Scanner} (line : scanner.cursor.place.line ≠ 0) :
    scanner.close = (scanner.withCursor scanner.cursor.beginLexeme).note
      (.token (endToken scanner.file scanner.cursor.place)) := by
  have valid : (endToken scanner.file scanner.cursor.place).fault? = none := by
    simp [Token.fault?, Token.isEndOfFile, endToken, line]
  have same : (scanner.withCursor scanner.cursor.beginLexeme).token .endOfFile none =
      endToken scanner.file scanner.cursor.place := rfl
  simp only [Scanner.close, Scanner.push, same, Token.validate, valid]

/-- A scan finds what the segments of the source give, and then the end of the file. -/
theorem ofSource_eq {source : List Char} {segments : List Segment}
    (division : Division source segments) (keywords : KeywordTable) (file : String) :
    ofSource keywords file source =
      { file := file
        findings := (Place.start.layOut segments).filterMap (·.finding? keywords file) ++
          [.token (endToken file (Place.start.after source))]
        errorCount := ((Place.start.layOut segments).filterMap (·.diagnostic? file)).length
        lastLine := (Place.start.after source).line } := by
  let before := Scanner.ofSource keywords file source
  have run : before.scanAll = segments.foldl Scanner.afterSegment before :=
    Scanner.scanAll_eq_foldl Nat.one_ne_zero division
  have reached : before.scanAll.cursor.place = Place.start.after source := by
    rw [run, Scanner.place_foldl_afterSegment, division.flatMap_text]
    rfl
  have named : before.scanAll.file = file := by
    rw [run, Scanner.file_foldl_afterSegment]
    rfl
  have line : before.scanAll.cursor.place.line ≠ 0 := by simp [reached, Place.after, Place.start]
  have closed := close_eq_note line
  rw [reached, named] at closed
  have found : before.scanAll.findings =
      ((Place.start.layOut segments).filterMap (·.finding? keywords file)).reverse ++ [] :=
    run ▸ Scanner.findings_foldl_afterSegment segments before
  have counted : before.scanAll.errorCount =
      0 + ((Place.start.layOut segments).filterMap (·.diagnostic? file)).length :=
    run ▸ Scanner.errorCount_foldl_afterSegment segments before
  have result : ofSource keywords file source =
      ⟨file, before.scanAll.close.findings.reverse, before.scanAll.close.errorCount,
        before.scanAll.close.cursor.place.line⟩ := rfl
  rw [result, closed]
  simp [Scanner.note, Scanner.withCursor, Cursor.beginLexeme, found, counted, reached]

variable {source : List Char} {segments : List Segment}

/-- The tokens are those of the segments in order, closed by the end of the file. -/
theorem tokens_ofSource (division : Division source segments) (keywords : KeywordTable)
    (file : String) :
    (ofSource keywords file source).tokens =
      (Place.start.layOut segments).filterMap (·.token? keywords file) ++
        [endToken file (Place.start.after source)] := by
  rw [ofSource_eq division, tokens, List.filterMap_append, List.filterMap_filterMap]
  rfl

/-- The diagnostics are those of the segments in order. -/
theorem diagnostics_ofSource (division : Division source segments) (keywords : KeywordTable)
    (file : String) :
    (ofSource keywords file source).diagnostics =
      (Place.start.layOut segments).filterMap (·.diagnostic? file) := by
  rw [ofSource_eq division, diagnostics, List.filterMap_append, List.filterMap_filterMap]
  simp only [PlacedSegment.diagnostic?_eq]
  exact List.append_nil _

/-! ## The one division -/

/-- Every source has one division, its segments stand one after another where
their bytes are, and a scan gives what the segments give at these places. -/
theorem scan_is_division (keywords : KeywordTable) (file : String) (source : List Char) :
    ∃ segments, (∀ other, Division source other ↔ other = segments) ∧
      (∀ placed ∈ Place.start.layOut segments, ∃ before later,
        source = before ++ placed.segment.text ++ later ∧
          placed.place = ⟨Text.byteSize before, 1 + Text.lineFeeds before⟩) ∧
      (ofSource keywords file source).tokens =
        (Place.start.layOut segments).filterMap (·.token? keywords file) ++
          [endToken file ⟨Text.byteSize source, 1 + Text.lineFeeds source⟩] ∧
      (ofSource keywords file source).diagnostics =
        (Place.start.layOut segments).filterMap (·.diagnostic? file) := by
  obtain ⟨segments, division⟩ := Division.exists_division source
  refine ⟨segments, ?_, ?_, ?_, diagnostics_ofSource division keywords file⟩
  · intro other
    constructor
    · exact fun same => same.unique division
    · rintro rfl
      exact division
  · intro placed member
    obtain ⟨before, later, whole, reached, -⟩ := division.exists_of_mem_layOut member
    refine ⟨before, later, whole, ?_⟩
    rw [reached, Place.start_after]
  · rw [tokens_ofSource division, Place.start_after]

end Scan

end LoxLexer
