/-
# The grammar of segments

Each form of segment has a rule for its own text and a rule for the text that
follows it. The second rule says that the segment is as long as it can be: no
run goes on, no symbol grows, no point with a digit follows a whole number, and
an open string is followed by nothing. The rules do not say how a segment is
found; the first segment of a text is the only one that keeps them.
-/

import LoxLexer.Segment.Lemmas

namespace LoxLexer

/-- A run of allowed characters ends before the text. -/
def EndsRun (allowed : Char → Bool) (later : List Char) : Prop :=
  ∀ next ∈ later.head?, allowed next = false

/-- Together with the next character the symbol is written like a longer one. -/
def Symbol.GrowsBy (mark : Symbol) (next : Char) : Prop :=
  ∃ longer : Symbol, longer.text = mark.text ++ [next]

namespace Segment

/-- The rule for the text of a segment. -/
def WellFormed : Segment → Prop
  | blank character => isSeparator character = true
  | comment remark => '\n' ∉ remark
  | symbol _ => True
  | string content => '"' ∉ content
  | number numeral =>
    numeral.whole ≠ [] ∧ (∀ digit ∈ numeral.whole, isDigit digit = true) ∧
      ∀ digit ∈ numeral.fraction, isDigit digit = true
  | word letters =>
    (∃ first ∈ letters.head?, isLetter first = true) ∧
      ∀ letter ∈ letters, isWordCharacter letter = true
  | stray character =>
    isSeparator character = false ∧ character ≠ '"' ∧ isDigit character = false ∧
      isLetter character = false ∧ ∀ mark : Symbol, mark.text.head? ≠ some character
  | openString content => '"' ∉ content

/-- The rule for the text that follows a segment. -/
def EndsBefore : Segment → List Char → Prop
  | comment _, later => EndsRun (fun next => next ≠ '\n') later
  | symbol mark, later =>
    (∀ next ∈ later.head?, ¬ mark.GrowsBy next) ∧ (mark = .slash → later.head? ≠ some '/')
  | number numeral, later =>
    EndsRun isDigit later ∧
      (numeral.fraction = [] → later.head? = some '.' → EndsRun isDigit later.tail)
  | word _, later => EndsRun isWordCharacter later
  | openString _, later => later = []
  | blank _, _ | string _, _ | stray _, _ => True

end Segment

/-! ## Runs -/

theorem endsRun_nil (allowed : Char → Bool) : EndsRun allowed [] := by
  intro next front
  contradiction

/-- A run that ends is the longest beginning of allowed characters. -/
theorem EndsRun.takeWhile_append {allowed : Char → Bool} {run later : List Char}
    (ends : EndsRun allowed later) (inside : ∀ character ∈ run, allowed character = true) :
    (run ++ later).takeWhile allowed = run := by
  rw [List.takeWhile_append_of_pos inside]
  cases later with
  | nil => simp
  | cons next rest => simp [ends next rfl]

/-- Behind a run that ends stands what follows it. -/
theorem EndsRun.dropWhile_append {allowed : Char → Bool} {run later : List Char}
    (ends : EndsRun allowed later) (inside : ∀ character ∈ run, allowed character = true) :
    (run ++ later).dropWhile allowed = later := by
  rw [List.dropWhile_append_of_pos inside]
  cases later with
  | nil => simp
  | cons next rest => simp [ends next rfl]

/-- The longest beginning of allowed characters is a run that ends. -/
theorem endsRun_of_takeWhile_append {allowed : Char → Bool} {text later : List Char}
    (whole : text.takeWhile allowed ++ later = text) : EndsRun allowed later := by
  have cut : text.takeWhile allowed ++ text.dropWhile allowed = text :=
    List.takeWhile_append_dropWhile
  have behind : later = text.dropWhile allowed := List.append_cancel_left (whole.trans cut.symm)
  intro next front
  have stopped := List.head?_dropWhile_not allowed text
  rw [← behind, Option.mem_def.mp front] at stopped
  exact stopped

/-- A run that ends at once is empty. -/
theorem takeWhile_eq_nil_iff {allowed : Char → Bool} {text : List Char} :
    text.takeWhile allowed = [] ↔ EndsRun allowed text := by
  cases text with
  | nil => simp [EndsRun]
  | cons first rest => cases permitted : allowed first <;> simp [EndsRun, permitted]

/-- Where a text ends, every segment may end. -/
theorem Segment.endsBefore_nil (segment : Segment) : segment.EndsBefore [] := by
  cases segment with
  | blank | string | stray => trivial
  | comment | word => exact endsRun_nil _
  | symbol => exact ⟨by simp, nofun⟩
  | number => exact ⟨endsRun_nil _, nofun⟩
  | openString => rfl

end LoxLexer
