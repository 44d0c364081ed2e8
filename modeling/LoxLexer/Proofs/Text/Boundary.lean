/-
# Boundaries of characters

An offset up to the end of a text is a boundary, at which the text can be cut, or it is
inside one character. A part of a text reaches from one boundary to a later one.
-/

import LoxLexer.Text.Line

namespace LoxLexer.Text

/-- A character of the text begins at the offset, or the text ends there. -/
def IsBoundary (text : List Char) (offset : Nat) : Prop :=
  ∃ before later, text = before ++ later ∧ byteSize before = offset

/-- The offset is between two bytes of one character of the text. -/
def IsInside (text : List Char) (offset : Nat) : Prop :=
  ∃ before character later, text = before ++ character :: later ∧
    byteSize before < offset ∧ offset < byteSize before + character.utf8Size

/-- The part of a text from one offset to another. There is none if the offsets are out
of order, beyond the end or inside a character. -/
def slice? (start stop : Nat) (text : List Char) : Option (List Char) :=
  (splitAtByte? stop text).bind fun (front, _) =>
    (splitAtByte? start front).map fun (_, part) => part

variable {text : List Char} {offset : Nat}

theorem isBoundary_of_splitAtByte? {before later : List Char}
    (cut : splitAtByte? offset text = some (before, later)) : IsBoundary text offset := by
  obtain ⟨whole, size⟩ := append_eq_of_splitAtByte? cut
  exact ⟨before, later, whole.symm, size⟩

/-- An offset at which there is no cut is inside a character or beyond the end. -/
theorem isInside_of_splitAtByte? (uncut : splitAtByte? offset text = none)
    (within : offset ≤ byteSize text) : IsInside text offset := by
  induction text generalizing offset with
  | nil =>
      obtain rfl : offset = 0 := Nat.le_zero.mp within
      contradiction
  | cons character rest ih =>
      cases offset with
      | zero => contradiction
      | succ offset =>
          rw [byteSize_cons] at within
          by_cases fits : character.utf8Size ≤ offset + 1
          · rw [splitAtByte?, if_pos fits, Option.map_eq_none_iff] at uncut
            obtain ⟨before, other, later, rfl, above, below⟩ := ih uncut (by omega)
            refine ⟨character :: before, other, later, rfl, ?_, ?_⟩
            · rw [byteSize_cons]
              omega
            · rw [byteSize_cons]
              omega
          · exact ⟨[], character, rest, rfl, Nat.succ_pos offset, by simpa using fits⟩

/-- No offset inside a character is a boundary. -/
theorem IsInside.not_isBoundary (inside : IsInside text offset) : ¬ IsBoundary text offset := by
  obtain ⟨before, character, later, whole, above, below⟩ := inside
  rintro ⟨front, back, cut, size⟩
  rcases List.append_eq_append_iff.mp (whole.symm.trans cut) with ⟨more, rfl, rest⟩ | ⟨more, rfl, -⟩
  · rcases List.cons_eq_append_iff.mp rest with ⟨rfl, -⟩ | ⟨others, rfl, -⟩
    · rw [List.append_nil] at size
      omega
    · simp only [byteSize_append, byteSize_cons] at size
      omega
  · rw [byteSize_append] at above
    omega

theorem IsInside.le_byteSize (inside : IsInside text offset) : offset ≤ byteSize text := by
  obtain ⟨before, character, later, rfl, -, below⟩ := inside
  rw [byteSize_append, byteSize_cons]
  omega

/-- Every offset is beyond the end, a boundary or inside a character. -/
theorem beyond_or_isBoundary_or_isInside (text : List Char) (offset : Nat) :
    byteSize text < offset ∨ IsBoundary text offset ∨ IsInside text offset := by
  rcases Nat.lt_or_ge (byteSize text) offset with beyond | within
  · exact .inl beyond
  · right
    cases cut : splitAtByte? offset text with
    | some => exact .inl (isBoundary_of_splitAtByte? cut)
    | none => exact .inr (isInside_of_splitAtByte? cut within)

end LoxLexer.Text
