/-
# A text has one division

A division of a text cuts it from left to right into segments that keep the
rules of the grammar, with nothing left out. Every text has exactly one.
-/

import LoxLexer.Proofs.Segment.First

namespace LoxLexer

/-- The text is cut into the segments, each of them well-formed and as long as
what follows it allows. -/
inductive Division : List Char → List Segment → Prop
  | nil : Division [] []
  | cons (segment : Segment) {later : List Char} {segments : List Segment}
      (wellFormed : segment.WellFormed) (ends : segment.EndsBefore later)
      (rest : Division later segments) : Division (segment.text ++ later) (segment :: segments)

namespace Segment

theorem text_ne_nil_of_wellFormed {segment : Segment} (wellFormed : segment.WellFormed) :
    segment.text ≠ [] := by
  cases segment with
  | symbol mark => exact mark.text_ne_nil
  | number numeral =>
      simp only [text, Number.Numeral.text]
      split <;> simp [wellFormed.1]
  | word letters =>
      obtain ⟨⟨initial, front, -⟩, -⟩ := wellFormed
      rintro rfl
      contradiction
  | blank | comment | string | stray | openString => simp [text]

/-- Behind its first segment a text goes on with what the step of the division leaves. -/
theorem text_first_append_drop (character : Char) (rest : List Char) :
    (first character rest).text ++ rest.drop ((first character rest).text.length - 1) =
      character :: rest := by
  obtain ⟨later, whole⟩ := text_first_prefix character rest
  obtain ⟨head, tail, front⟩ := List.exists_cons_of_ne_nil (text_first_ne_nil character rest)
  rw [front] at whole ⊢
  obtain ⟨rfl, rfl⟩ := List.cons.inj whole
  simp

/-- A segment that keeps the rules is split off. -/
theorem split_text_append {segment : Segment} {later : List Char}
    (wellFormed : segment.WellFormed) (ends : segment.EndsBefore later) :
    split (segment.text ++ later) = segment :: split later := by
  obtain ⟨character, more, front⟩ :=
    List.exists_cons_of_ne_nil (text_ne_nil_of_wellFormed wellFormed)
  have whole : segment.text ++ later = character :: (more ++ later) := by rw [front]; rfl
  rw [whole, split, first_eq wellFormed ends whole, front]
  simp

theorem division_split (source : List Char) : Division source (split source) := by
  induction source using split.induct with
  | case1 =>
      rw [split]
      exact .nil
  | case2 character rest segment ih =>
      have whole := text_first_append_drop character rest
      have step := Division.cons _ (first_wellFormed character rest) (first_endsBefore whole) ih
      rw [split]
      exact whole ▸ step

end Segment

namespace Division

theorem eq_split {source : List Char} {segments : List Segment}
    (division : Division source segments) : segments = Segment.split source := by
  induction division with
  | nil => rw [Segment.split]
  | cons _ wellFormed ends _ ih => rw [Segment.split_text_append wellFormed ends, ← ih]

/-- Every text has a division. -/
theorem exists_division (source : List Char) : ∃ segments, Division source segments :=
  ⟨_, Segment.division_split source⟩

/-- No text has two. -/
theorem unique {source : List Char} {first second : List Segment}
    (one : Division source first) (other : Division source second) : first = second :=
  one.eq_split.trans other.eq_split.symm

theorem iff_eq {source : List Char} {segments : List Segment}
    (division : Division source segments) (other : List Segment) :
    Division source other ↔ other = segments := by
  constructor
  · intro same
    exact same.unique division
  · rintro rfl
    exact division

/-- A division leaves nothing out. -/
theorem flatMap_text {source : List Char} {segments : List Segment}
    (division : Division source segments) : segments.flatMap Segment.text = source := by
  rw [division.eq_split, Segment.flatMap_text_split]

end Division

end LoxLexer
