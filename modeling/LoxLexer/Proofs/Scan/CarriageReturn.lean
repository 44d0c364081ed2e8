/-
# A carriage return at the end of a line

At the end of a text that leaves no string open a carriage return gives nothing.
It belongs to the comment that the text ends with, or else it is a blank of its
own, and no other segment changes.
-/

import LoxLexer.Proofs.Scan.Layout

namespace LoxLexer

/-- What is taken from placed segments is never taken from a blank or a comment. -/
structure PlacedSegment.PassesOver {found : Type} (give : PlacedSegment → Option found) : Prop where
  blank : ∀ character place, give ⟨.blank character, place⟩ = none
  comment : ∀ remark place, give ⟨.comment remark, place⟩ = none

/-- A separator behind the text that follows changes no segment, unless a string
is open or a comment is followed by nothing. -/
theorem Segment.EndsBefore.append_separator {segment : Segment} {later : List Char}
    (ends : segment.EndsBefore later) (closed : ∀ content, segment ≠ .openString content)
    (followed : ∀ remark, segment = .comment remark → later ≠ [])
    {separator : Char} (separates : isSeparator separator = true) :
    segment.EndsBefore (later ++ [separator]) := by
  have alike : GoesOnLike later (later ++ [separator]) := by
    simpa using (GoesOnLike.separated [] separates []).append later
  have token {token : Token}
      (gives : PlacedSegment.token? .empty "" ⟨segment, .start⟩ = some token) :
      segment.EndsBefore (later ++ [separator]) :=
    PlacedSegment.endsBefore_of_goesOnLike gives ends alike
  cases segment with
  | blank | stray => trivial
  | comment remark =>
      obtain ⟨next, rest, rfl⟩ := List.exists_cons_of_ne_nil (followed remark rfl)
      exact ends
  | symbol | string | number | word => exact token rfl
  | openString content => exact absurd rfl (closed content)

/-- A carriage return behind a divided text that leaves no string open is not to be
seen in what the segments give. -/
theorem Division.append_carriage_return {text : List Char} {segments : List Segment}
    (division : Division text segments) (closed : ∀ content, .openString content ∉ segments) :
    ∃ restored, Division (text ++ ['\r']) restored ∧
      (∀ content, .openString content ∉ restored) ∧
      ∀ {found : Type} (give : PlacedSegment → Option found), PlacedSegment.PassesOver give →
        ∀ place : Place,
          (place.layOut restored).filterMap give = (place.layOut segments).filterMap give := by
  induction division with
  | nil =>
      refine ⟨[.blank '\r'], .cons (.blank '\r') rfl trivial .nil, by simp, ?_⟩
      intro found give passes place
      exact List.filterMap_cons_none (passes.blank ..)
  | @cons segment later segments wellFormed ends rest ih =>
      obtain ⟨first, others⟩ :=
        forall_and.mp fun content => not_or.mp (List.mem_cons.not.mp (closed content))
      -- A comment at the end takes the carriage return in; every other segment ends before it.
      by_cases last : later = [] ∧ ∃ remark, segment = .comment remark
      · obtain ⟨rfl, remark, rfl⟩ := last
        obtain rfl : segments = [] := by rw [rest.eq_split, Segment.split]
        have wellFormed : (Segment.comment (remark ++ ['\r'])).WellFormed := by
          simpa [Segment.WellFormed] using wellFormed
        have longer := Division.cons _ wellFormed (endsRun_nil _) .nil
        refine ⟨[.comment (remark ++ ['\r'])], by simpa [Segment.text] using longer, by simp, ?_⟩
        intro found give passes place
        exact (List.filterMap_cons_none (passes.comment ..)).trans
          (List.filterMap_cons_none (passes.comment ..)).symm
      · obtain ⟨restored, division, closed, same⟩ := ih others
        have followed : ∀ remark, segment = .comment remark → later ≠ [] :=
          fun remark form ended => last ⟨ended, remark, form⟩
        have ends := ends.append_separator (fun content => Ne.symm (first content)) followed
          (show isSeparator '\r' = true from rfl)
        refine ⟨segment :: restored, ?_, by simp [first, closed], ?_⟩
        · rw [List.append_assoc]
          exact .cons segment wellFormed ends division
        · intro found give passes place
          rw [Place.layOut, Place.layOut, List.filterMap_cons, List.filterMap_cons,
            same give passes]

end LoxLexer
