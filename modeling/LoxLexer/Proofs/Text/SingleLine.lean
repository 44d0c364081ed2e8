/-
# Texts on one line

Numbers, quoted characters and what is left of a source line after trimming have
no line feed in them. A line of a text has one at its end at most.
-/

import LoxLexer.Proofs.Text.Lines
import LoxLexer.Text.Characters

namespace LoxLexer.Text

/-! ## Numbers and quoted characters -/

theorem lineFeed_not_mem_toDigits {base : Nat} (proper : 1 < base) (number : Nat) :
    '\n' ∉ Nat.toDigits base number := by
  induction number using Nat.strongRecOn with
  | _ number ih =>
      rw [Nat.toDigits_eq_if proper]
      split
      · simp
      · next large =>
          have smaller : number / base < number := Nat.div_lt_self (by omega) proper
          simp [ih _ smaller]

/-- A number in decimal digits has nothing but digits in it. -/
theorem not_mem_repr {character : Char} (other : character.isDigit = false) (number : Nat) :
    character ∉ number.repr.toList := by
  intro member
  rw [Nat.toList_repr] at member
  have digit := Nat.isDigit_of_mem_toDigits (by decide) (by decide) member
  rw [other] at digit
  contradiction

/-- A line feed is written as a backslash and a letter, like every character that is not shown. -/
theorem lineFeed_not_mem_escape (mark : QuotationMark) (character : Char) :
    '\n' ∉ escape mark character := by
  have digits := lineFeed_not_mem_toDigits (by decide : 1 < 16) character.toNat
  unfold escape
  split
  · next same =>
      rw [same]
      cases mark <;> decide
  · split
    case h_6 _ notFeed _ _ =>
        split
        · simp [codePointEscape, digits]
        · simpa using Ne.symm notFeed
    all_goals decide

@[simp] theorem lineFeed_not_mem_quotedCharacter (character : Char) :
    '\n' ∉ (quotedCharacter character).toList := by
  simp [quotedCharacter, lineFeed_not_mem_escape]

/-! ## Lines without their line feeds -/

/-- A line has a line feed at its end at most. -/
theorem lineFeed_not_mem_dropLast_firstLine (text : List Char) :
    '\n' ∉ (firstLine text).dropLast := by
  by_cases occurs : '\n' ∈ text
  · obtain ⟨line, later, rfl, absent⟩ := List.eq_append_cons_of_mem occurs
    simpa [firstLine, lines_append_cons absent] using absent
  · by_cases empty : text = []
    · rw [empty]
      exact List.not_mem_nil
    · rw [firstLine, lines_of_not_mem occurs empty]
      exact fun member => occurs ((List.dropLast_sublist text).subset member)

theorem lineFeed_not_mem_lastLine (text : List Char) : '\n' ∉ lastLine text := by
  intro member
  simpa using List.mem_rtakeWhile_imp member

/-- Trimming takes the line feed at the end of a line away. -/
theorem lineFeed_not_mem_trimEnd {line : List Char} (single : '\n' ∉ line.dropLast) :
    '\n' ∉ trimEnd line := by
  rcases List.eq_nil_or_concat' line with rfl | ⟨front, last, rfl⟩
  · exact List.not_mem_nil
  rw [List.dropLast_concat] at single
  have trimmed : trimEnd (front ++ [last]) =
      if isWhiteSpace last then trimEnd front else front ++ [last] := by
    simp only [trimEnd, List.reverse_append, List.reverse_cons, List.reverse_nil, List.nil_append,
      List.cons_append, List.dropWhile_cons]
    split <;> simp
  rw [trimmed]
  split
  · obtain ⟨trailing, whole, -⟩ := exists_append_of_trimEnd front
    intro member
    apply single
    rw [whole]
    exact List.mem_append_left trailing member
  · next visible =>
      intro member
      rcases List.mem_append.mp member with member | member
      · exact single member
      · rw [← List.mem_singleton.mp member] at visible
        exact visible rfl

end LoxLexer.Text
