/-
# The segments of a text are a division of it

The first segment of a text is a beginning of the text and is not empty, so the
segments one after another are the whole text.
-/

import LoxLexer.Segment.Basic

namespace LoxLexer

namespace Symbol

/-- A symbol that is found by its text has that text. -/
theorem text_of_ofText? {text : List Char} {mark : Symbol} (found : ofText? text = some mark) :
    mark.text = text := by
  simpa using List.find?_some found

/-- The longest symbol that a text begins with is a beginning of the text. -/
theorem text_prefix_of_longestPrefix? {text : List Char} {mark : Symbol}
    (found : longestPrefix? text = some mark) : mark.text <+: text := by
  rw [longestPrefix?, Option.or_eq_some_iff] at found
  rcases found with found | ⟨_, found⟩
  · exact text_of_ofText? found ▸ List.take_prefix 2 text
  · exact text_of_ofText? found ▸ List.take_prefix 1 text

/-- Every symbol is written with some character. -/
theorem text_ne_nil (mark : Symbol) : mark.text ≠ [] := by
  cases mark <;> simp [text]

end Symbol

namespace Segment

/-- Up to the first occurrence of a member, and with it, a list is a beginning of itself. -/
private theorem takeWhile_ne_append_prefix {mark : Char} {text : List Char} (occurs : mark ∈ text) :
    (text.takeWhile fun later => later ≠ mark) ++ [mark] <+: text := by
  induction text with
  | nil => simp at occurs
  | cons character rest ih =>
      by_cases same : character = mark
      · simp [same]
      · have later : mark ∈ rest := by simpa [Ne.symm same] using occurs
        simpa [same] using ih later

/-- The longest numeral that a text begins with is a beginning of the text. -/
theorem text_longestNumeral_prefix (text : List Char) : (longestNumeral text).text <+: text := by
  have whole : text.takeWhile isDigit ++ text.dropWhile isDigit = text :=
    List.takeWhile_append_dropWhile
  unfold Number.Numeral.text
  split
  · exact List.takeWhile_prefix isDigit
  · next digit later fraction =>
      simp only [longestNumeral] at fraction ⊢
      split at fraction
      · next rest point =>
          rw [point] at whole
          rw [← fraction]
          conv => rhs; rw [← whole]
          exact (List.prefix_append_right_inj _).mpr
            (List.cons_prefix_cons.mpr ⟨rfl, List.takeWhile_prefix isDigit⟩)
      · simp at fraction

/-- The first segment of a text is a beginning of the text. -/
theorem text_first_prefix (character : Char) (rest : List Char) :
    (first character rest).text <+: character :: rest := by
  unfold first
  split
  · simp [text]
  · split
    · next slashes =>
        obtain ⟨rfl, next⟩ := slashes
        cases rest with
        | nil => simp at next
        | cons second later =>
            obtain rfl : second = '/' := by simpa using next
            simpa [text] using List.takeWhile_prefix _
    · split
      · next quote =>
          subst quote
          split
          · next closed => simpa [text] using takeWhile_ne_append_prefix closed
          · simp [text]
      · split
        · exact text_longestNumeral_prefix _
        · split
          · simpa [text] using List.takeWhile_prefix _
          · split
            · next found => exact Symbol.text_prefix_of_longestPrefix? found
            · simp [text]

/-- A segment that is the first of a text is not empty. -/
theorem text_first_ne_nil (character : Char) (rest : List Char) :
    (first character rest).text ≠ [] := by
  unfold first
  split
  · simp [text]
  · split
    · simp [text]
    · split
      · split <;> simp [text]
      · split
        · next digit =>
            have whole : (longestNumeral (character :: rest)).whole ≠ [] := by
              simp [longestNumeral, digit]
            simp only [text, Number.Numeral.text]
            split <;> simp [whole]
        · split
          · simp [text]
          · split
            · exact Symbol.text_ne_nil _
            · simp [text]

/-- The texts of the segments, one after another, are the text. -/
theorem flatMap_text_split (source : List Char) : (split source).flatMap text = source := by
  induction source using split.induct with
  | case1 => simp [split]
  | case2 character rest segment ih =>
      rw [split, List.flatMap_cons, ih]
      obtain ⟨later, whole⟩ := text_first_prefix character rest
      have nonempty := text_first_ne_nil character rest
      change (first character rest).text ++ rest.drop ((first character rest).text.length - 1) = _
      cases front : (first character rest).text with
      | nil => exact absurd front nonempty
      | cons head tail =>
          rw [front] at whole
          obtain ⟨rfl, rfl⟩ := List.cons.inj whole
          simp

end Segment

end LoxLexer
