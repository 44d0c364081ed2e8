/-
# Text behind a source changes only its end

Where a segment ends is decided by at most two characters behind it. So when text
is put behind a source, every segment of the source stays but the last one, or but
a number and a point at the very end. Tokens that end two bytes before the end of
the source stay with all that belongs to them, and stray characters stay anywhere.
-/

import LoxLexer.Proofs.Scan.Barrier
import LoxLexer.Proofs.Scan.Layout
import LoxLexer.Proofs.Scan.Lines

namespace LoxLexer

namespace Segment

/-- The segment ends where it does, whatever is put behind the text that follows it. -/
def SettledBefore (segment : Segment) (later : List Char) : Prop :=
  ∀ more, segment.EndsBefore (later ++ more)

/-- What text behind a source can change of its segments: nothing, the last segment
unless that is a stray character, or a number with a point as the last character. -/
inductive OpenEnd : List Segment → Prop
  | none : OpenEnd []
  | last {segment : Segment} (begun : ∀ character, segment ≠ .stray character) : OpenEnd [segment]
  | point (numeral : Number.Numeral) : OpenEnd [.number numeral, .symbol .dot]

/-- A segment is settled by what follows it, unless nothing follows it or it is a
number that only a point follows. -/
theorem EndsBefore.settled_or {segment : Segment} {later : List Char}
    (ends : segment.EndsBefore later) :
    segment.SettledBefore later ∨
      (later = [] ∧ ∀ character, segment ≠ .stray character) ∨
      (later = ['.'] ∧ ∃ numeral, segment = .number numeral) := by
  cases later with
  | nil =>
      cases segment with
      | stray => exact .inl fun _ => trivial
      | blank | comment | symbol | string | number | word | openString =>
          exact .inr (.inl ⟨rfl, nofun⟩)
  | cons next rest =>
      cases segment with
      | blank | string | stray => exact .inl fun _ => trivial
      | comment | symbol | word => exact .inl fun _ => ends
      | openString => contradiction
      | number numeral =>
          -- Only behind a point does a number depend on a second character.
          by_cases point : next = '.' ∧ rest = []
          · obtain ⟨rfl, rfl⟩ := point
            exact .inr (.inr ⟨rfl, numeral, rfl⟩)
          · left
            intro more
            refine ⟨ends.1, ?_⟩
            intro noFraction dot
            obtain rfl : next = '.' := by simpa using dot
            obtain ⟨second, others, rfl⟩ :=
              List.exists_cons_of_ne_nil fun ended : rest = [] => point ⟨rfl, ended⟩
            exact ends.2 noFraction rfl

/-- No text behind the source settles an open string. -/
theorem SettledBefore.ne_openString {segment : Segment} {later : List Char}
    (settled : segment.SettledBefore later) (content : List Char) :
    segment ≠ .openString content := by
  rintro rfl
  have ended : later ++ ['"'] = [] := settled ['"']
  simp at ended

end Segment

/-- With text behind it a source keeps its segments up to an open end, which may be
divided anew together with that text. No string is open among those that are kept. -/
theorem Division.exists_appended {source : List Char} {segments : List Segment}
    (division : Division source segments) (more : List Char) :
    ∃ kept last changed, segments = kept ++ last ∧ Segment.OpenEnd last ∧
      Division (source ++ more) (kept ++ changed) ∧ ∀ content, .openString content ∉ kept := by
  induction division with
  | nil => exact ⟨[], [], _, rfl, .none, Segment.division_split more, by simp⟩
  | @cons segment later segments wellFormed ends rest ih =>
      have anew := Segment.division_split (segment.text ++ later ++ more)
      rcases ends.settled_or with settled | ⟨rfl, begun⟩ | ⟨rfl, numeral, rfl⟩
      · obtain ⟨kept, last, changed, rfl, openEnd, division, closed⟩ := ih
        refine ⟨segment :: kept, last, changed, rfl, openEnd, ?_, ?_⟩
        · rw [List.append_assoc]
          exact .cons segment wellFormed (settled more) division
        · intro content member
          rcases List.mem_cons.mp member with same | member
          · exact settled.ne_openString content same.symm
          · exact closed content member
      · obtain rfl : segments = [] := by rw [rest.eq_split, Segment.split]
        exact ⟨[], [segment], _, rfl, .last begun, anew, by simp⟩
      · have point : Division ['.'] [.symbol .dot] :=
          .cons (.symbol .dot) trivial (Segment.endsBefore_nil _) .nil
        obtain rfl := rest.unique point
        exact ⟨[], [.number numeral, .symbol .dot], _, rfl, .point numeral, anew, by simp⟩

/-! ## Tokens near the end -/

/-- Tokens stand one after another and never overlap. -/
theorem Place.pairwise_token?_layOut (keywords : KeywordTable) (file : String) (place : Place)
    (segments : List Segment) :
    ((place.layOut segments).filterMap (·.token? keywords file)).Pairwise
      fun earlier later => earlier.span.stop ≤ later.span.start := by
  induction segments generalizing place with
  | nil => exact .nil
  | cons segment later ih =>
      rw [layOut]
      cases gives : PlacedSegment.token? keywords file ⟨segment, place⟩ with
      | none =>
          rw [List.filterMap_cons_none gives]
          exact ih _
      | some token =>
          rw [List.filterMap_cons_some gives, List.pairwise_cons]
          refine ⟨?_, ih _⟩
          intro next member
          obtain ⟨placed, stands, begins⟩ := List.mem_filterMap.mp member
          rw [PlacedSegment.stop_of_token? gives, (PlacedSegment.place_of_token? begins).1]
          exact offset_le_of_mem_layOut stands

theorem PlacedSegment.start_le_stop_of_token? {keywords : KeywordTable} {file : String}
    {placed : PlacedSegment} {token : Token} (gives : placed.token? keywords file = some token) :
    token.span.start ≤ token.span.stop := by
  rw [(place_of_token? gives).1, stop_of_token? gives]
  exact Nat.le_add_right ..

/-- What is kept up to some member of an ordered list is a beginning of the list. -/
theorem filter_prefix_of_pairwise {α : Type} {keep : α → Bool} {list : List α}
    (ordered : list.Pairwise fun earlier later => keep later = true → keep earlier = true) :
    list.filter keep <+: list := by
  induction list with
  | nil => exact List.prefix_refl _
  | cons member rest ih =>
      obtain ⟨before, ordered⟩ := List.pairwise_cons.mp ordered
      cases kept : keep member with
      | true =>
          rw [List.filter_cons_of_pos kept]
          exact List.cons_prefix_cons.mpr ⟨rfl, ih ordered⟩
      | false =>
          have none : (member :: rest).filter keep = [] := by
            rw [List.filter_eq_nil_iff]
            intro other stands
            rcases List.mem_cons.mp stands with rfl | later
            · simp [kept]
            · intro keeps
              simp [before other later keeps] at kept
          rw [none]
          exact List.nil_prefix

/-- A token of an open end stops less than two bytes before the end. -/
theorem Segment.OpenEnd.lt_stop {segments : List Segment} (openEnd : OpenEnd segments)
    {keywords : KeywordTable} {file : String} {place : Place} {token : Token}
    (member : token ∈ (place.layOut segments).filterMap (·.token? keywords file)) :
    (place.after (segments.flatMap text)).offset < token.span.stop + 2 := by
  obtain ⟨placed, stands, gives⟩ := List.mem_filterMap.mp member
  cases openEnd with
  | none => contradiction
  | last =>
      obtain rfl := List.mem_singleton.mp stands
      rw [PlacedSegment.stop_of_token? gives]
      simp
  | point numeral =>
      have ended : (place.after ([number numeral, symbol .dot].flatMap text)).offset =
          place.offset + Text.byteSize numeral.text + 1 := by
        have width : Text.byteSize ['.'] = 1 := rfl
        simp [Place.after, text, Symbol.text, width, Nat.add_assoc]
      rcases List.mem_cons.mp stands with rfl | stands
      · have stop : token.span.stop = place.offset + Text.byteSize numeral.text :=
          PlacedSegment.stop_of_token? gives
        omega
      · obtain rfl := List.mem_singleton.mp stands
        have stop : token.span.stop = place.offset + Text.byteSize numeral.text + 1 :=
          PlacedSegment.stop_of_token? gives
        omega

/-! ## Stray characters -/

/-- Is a character the cause that no lexeme begins with? -/
def Cause.isUnexpectedCharacter : Cause → Bool
  | unexpectedCharacter _ => true
  | unterminatedString | malformedNumber _ | invalidToken _ => false
  | unreadableFile .. | transfer _ => false

/-- Unexpected characters are reported of stray segments and of no others. -/
theorem PlacedSegment.isUnexpectedCharacter_iff {file : String} {placed : PlacedSegment}
    {diagnostic : Diagnostic} (gives : placed.diagnostic? file = some diagnostic) :
    diagnostic.cause.isUnexpectedCharacter = true ↔
      ∃ character, placed.segment = .stray character := by
  unfold diagnostic? finding? at gives
  split at gives <;> cases gives
  case h_7 character form => simp [Cause.isUnexpectedCharacter, form]
  case h_8 content form => simp [Cause.isUnexpectedCharacter, form]

/-- Whatever is reported of segments without an open string is an unexpected character. -/
theorem Place.filter_diagnostic?_layOut {segments : List Segment}
    (closed : ∀ content, .openString content ∉ segments) (file : String) (place : Place) :
    ((place.layOut segments).filterMap (·.diagnostic? file)).filter
        (·.cause.isUnexpectedCharacter) =
      (place.layOut segments).filterMap (·.diagnostic? file) := by
  rw [List.filter_eq_self]
  intro diagnostic member
  obtain ⟨placed, stands, gives⟩ := List.mem_filterMap.mp member
  rw [PlacedSegment.isUnexpectedCharacter_iff gives]
  rcases PlacedSegment.place_of_diagnostic? gives with ⟨stray, -, -⟩ | ⟨⟨content, form⟩, -⟩
  · exact stray
  · have listed := List.mem_map_of_mem (f := PlacedSegment.segment) stands
    rw [map_segment_layOut, form] at listed
    exact absurd listed (closed content)

/-- There is no unexpected character in an open end. -/
theorem Segment.OpenEnd.filter_diagnostic?_layOut {segments : List Segment}
    (openEnd : OpenEnd segments) (file : String) (place : Place) :
    ((place.layOut segments).filterMap (·.diagnostic? file)).filter
      (·.cause.isUnexpectedCharacter) = [] := by
  rw [List.filter_eq_nil_iff]
  intro diagnostic member
  obtain ⟨placed, stands, gives⟩ := List.mem_filterMap.mp member
  rw [PlacedSegment.isUnexpectedCharacter_iff gives]
  rintro ⟨character, stray⟩
  have listed := List.mem_map_of_mem (f := PlacedSegment.segment) stands
  rw [Place.map_segment_layOut, stray] at listed
  cases openEnd with
  | none => contradiction
  | last begun => exact begun character (List.mem_singleton.mp listed).symm
  | point numeral => simp at listed

/-! ## The whole scan -/

namespace Scan

variable (keywords : KeywordTable) (file : String) (source more : List Char)

/-- The tokens that end two bytes before the end of a source are the first ones of any
longer source. -/
theorem filter_tokens_prefix_append :
    ((ofSource keywords file source).tokens.filter fun token =>
      token.span.stop + 2 ≤ Text.byteSize source) <+:
        (ofSource keywords file (source ++ more)).tokens := by
  obtain ⟨segments, division⟩ := Division.exists_division source
  obtain ⟨kept, last, changed, rfl, openEnd, appended, -⟩ := division.exists_appended more
  have whole := division.flatMap_text
  rw [List.flatMap_append] at whole
  have ended : Place.start.after (kept.flatMap Segment.text ++ last.flatMap Segment.text) =
      Place.start.after source := by rw [whole]
  have near : ((((Place.start.after (kept.flatMap Segment.text)).layOut last).filterMap
      (·.token? keywords file)).filter
        fun token => token.span.stop + 2 ≤ Text.byteSize source) = [] := by
    rw [List.filter_eq_nil_iff]
    intro token member
    have close := openEnd.lt_stop member
    rw [← Place.after_append, ended, Place.start_after] at close
    simpa using close
  have endNear : [endToken file (Place.start.after source)].filter
      (fun token => decide (token.span.stop + 2 ≤ Text.byteSize source)) = [] := by
    simp [endToken, Place.start_after]
  rw [tokens_ofSource division, tokens_ofSource appended, Place.layOut_append, Place.layOut_append,
    List.filterMap_append, List.filterMap_append, List.filter_append, List.filter_append, near,
    endNear, List.append_nil, List.append_nil, List.append_assoc]
  apply List.prefix_append_of_prefix
  apply filter_prefix_of_pairwise
  have ordered := Place.pairwise_token?_layOut keywords file .start kept
  refine ordered.imp_of_mem ?_
  intro earlier later _ member apart settled
  obtain ⟨placed, -, gives⟩ := List.mem_filterMap.mp member
  have span := PlacedSegment.start_le_stop_of_token? gives
  simp only [decide_eq_true_eq] at settled ⊢
  omega

/-- The unexpected characters of a source are the first ones of any longer source. -/
theorem filter_diagnostics_prefix_append :
    (ofSource keywords file source).diagnostics.filter (·.cause.isUnexpectedCharacter) <+:
      (ofSource keywords file (source ++ more)).diagnostics := by
  obtain ⟨segments, division⟩ := Division.exists_division source
  obtain ⟨kept, last, changed, rfl, openEnd, appended, closed⟩ := division.exists_appended more
  rw [diagnostics_ofSource division, diagnostics_ofSource appended, Place.layOut_append,
    Place.layOut_append, List.filterMap_append, List.filterMap_append, List.filter_append,
    openEnd.filter_diagnostic?_layOut, Place.filter_diagnostic?_layOut closed, List.append_nil]
  exact List.prefix_append _ _

/-- A number that only a point follows is no beginning of the scan any more when a
digit comes behind the point. -/
theorem not_filter_tokens_prefix_digit {digit : Char} (another : isDigit digit = true) :
    ¬ ((ofSource keywords file ['3', '.']).tokens.filter fun token =>
      token.span.stop + 1 ≤ Text.byteSize ['3', '.']) <+:
        (ofSource keywords file ['3', '.', digit]).tokens := by
  have apart : Division ['3', '.'] [.number ⟨['3'], []⟩, .symbol .dot] :=
    .cons (.number ⟨['3'], []⟩) (by simp [Segment.WellFormed, isDigit])
      ⟨by rintro next ⟨⟩; rfl, fun _ _ => endsRun_nil _⟩
      (.cons (.symbol .dot) trivial (Segment.endsBefore_nil _) .nil)
  have joined : Division ['3', '.', digit] [.number ⟨['3'], [digit]⟩] :=
    .cons (.number ⟨['3'], [digit]⟩) ⟨by simp, by simp [isDigit], by simpa using another⟩
      (Segment.endsBefore_nil _) .nil
  intro begins
  have lexemes := begins.map Token.lexeme
  rw [tokens_ofSource apart, tokens_ofSource joined] at lexemes
  have number : ["3"] <+: [String.ofList ['3', '.', digit], ""] := lexemes
  have same := (List.cons_prefix_cons.mp number).1
  have characters : ['3'] = ['3', '.', digit] := by simpa using congrArg String.toList same
  simp at characters

/-- Text behind a source leaves the tokens that end two bytes before the end of the
source, and the stray characters, as they are. For a number it takes two bytes: a
point is behind it, and a digit may come. -/
theorem appended_text_changes_only_end :
    (∀ source more,
      ((ofSource keywords file source).tokens.filter fun token =>
          token.span.stop + 2 ≤ Text.byteSize source) <+:
        (ofSource keywords file (source ++ more)).tokens ∧
      (ofSource keywords file source).diagnostics.filter (·.cause.isUnexpectedCharacter) <+:
        (ofSource keywords file (source ++ more)).diagnostics) ∧
    ∀ digit, isDigit digit = true →
      ¬ ((ofSource keywords file ['3', '.']).tokens.filter fun token =>
          token.span.stop + 1 ≤ Text.byteSize ['3', '.']) <+:
        (ofSource keywords file ['3', '.', digit]).tokens := by
  constructor
  · intro source more
    exact ⟨filter_tokens_prefix_append keywords file source more,
      filter_diagnostics_prefix_append keywords file source more⟩
  · intro digit another
    exact not_filter_tokens_prefix_digit keywords file another

end Scan

end LoxLexer
