/-
# Lines and offsets

A list is divided after each separator, one line after another. So an offset at
which a text can be cut lies on the line whose number counts the line feeds
before it, behind as many bytes as there are since the last line feed.
-/

import LoxLexer.Text.Line
import Mathlib.Data.List.DropRight

namespace LoxLexer.Text

section SplitAfter

variable {α : Type} [DecidableEq α] {separator : α}

theorem splitAfter_ne_nil {list : List α} (nonempty : list ≠ []) :
    splitAfter separator list ≠ [] := by
  intro none
  apply nonempty
  rw [← flatten_splitAfter separator list, none, List.flatten_nil]

/-- What has no separator in it belongs to the first piece of what follows. -/
theorem splitAfter_append {front later : List α} (absent : separator ∉ front)
    (nonempty : front ++ later ≠ []) :
    splitAfter separator (front ++ later) =
      (front ++ (splitAfter separator later).headD []) :: (splitAfter separator later).tail := by
  induction front with
  | nil =>
      have pieces : splitAfter separator later ≠ [] := splitAfter_ne_nil nonempty
      obtain ⟨piece, others, divided⟩ := List.exists_cons_of_ne_nil pieces
      simp [divided]
  | cons member rest ih =>
      obtain ⟨differs, absent⟩ := not_or.mp (List.mem_cons.not.mp absent)
      rw [List.cons_append, splitAfter, if_neg (Ne.symm differs)]
      by_cases ended : rest ++ later = []
      · obtain ⟨rfl, rfl⟩ := List.append_eq_nil_iff.mp ended
        rfl
      · rw [ih absent ended]
        rfl

/-- A separator closes its piece. -/
theorem splitAfter_append_cons {front : List α} (absent : separator ∉ front) (later : List α) :
    splitAfter separator (front ++ separator :: later) =
      (front ++ [separator]) :: splitAfter separator later := by
  rw [splitAfter_append absent (by simp)]
  simp [splitAfter]

/-- Without a separator there is one piece. -/
theorem splitAfter_of_not_mem {list : List α} (absent : separator ∉ list) (nonempty : list ≠ []) :
    splitAfter separator list = [list] := by
  have divided : splitAfter separator (list ++ []) = _ :=
    splitAfter_append absent (by simpa using nonempty)
  simpa [splitAfter] using divided

/-- Every list is a piece without a separator, or such a piece closed by a
separator before a list that is treated already. -/
@[elab_as_elim]
theorem piecewise_induction (separator : α) {motive : List α → Prop}
    (unclosed : ∀ piece, separator ∉ piece → motive piece)
    (closed : ∀ piece later, separator ∉ piece → motive later →
      motive (piece ++ separator :: later))
    (list : List α) : motive list := by
  by_cases occurs : separator ∈ list
  · obtain ⟨piece, later, rfl, absent⟩ := List.eq_append_cons_of_mem occurs
    exact closed piece later absent (piecewise_induction separator unclosed closed later)
  · exact unclosed list occurs
termination_by list.length

/-! ## Lists whose last piece is closed -/

/-- The list is empty or ends with the separator, so that all its pieces are closed. -/
def Closed (separator : α) (list : List α) : Prop := list = [] ∨ list.getLast? = some separator

omit [DecidableEq α] in
theorem closed_append_cons (front : List α) {later : List α} :
    Closed separator (front ++ separator :: later) ↔ Closed separator later := by
  cases later <;> simp [Closed]

/-- What stands behind closed pieces is divided by itself. -/
theorem splitAfter_append_of_closed {front : List α} (closed : Closed separator front)
    (later : List α) :
    splitAfter separator (front ++ later) =
      splitAfter separator front ++ splitAfter separator later := by
  induction front using piecewise_induction separator with
  | unclosed piece absent =>
      rcases closed with rfl | ended
      · rfl
      · exact absurd (List.mem_of_getLast? ended) absent
  | closed piece front absent ih =>
      rw [List.append_assoc, List.cons_append, splitAfter_append_cons absent,
        splitAfter_append_cons absent, ih ((closed_append_cons piece).mp closed), List.cons_append]

theorem getLast?_of_mem_splitAfter {list : List α} (closed : Closed separator list) {piece : List α}
    (member : piece ∈ splitAfter separator list) : piece.getLast? = some separator := by
  induction list using piecewise_induction separator with
  | unclosed list absent =>
      rcases closed with rfl | ended
      · contradiction
      · exact absurd (List.mem_of_getLast? ended) absent
  | closed front later absent ih =>
      rw [splitAfter_append_cons absent, List.mem_cons] at member
      rcases member with rfl | member
      · exact List.getLast?_concat
      · exact ih ((closed_append_cons front).mp closed) member

/-- A closed piece of a list is a piece of a closed beginning of the list. -/
theorem exists_closed_of_mem_splitAfter {list piece : List α}
    (member : piece ∈ splitAfter separator list) (ended : piece.getLast? = some separator) :
    ∃ front later, list = front ++ later ∧ Closed separator front ∧
      piece ∈ splitAfter separator front := by
  induction list using piecewise_induction separator with
  | unclosed list absent =>
      by_cases empty : list = []
      · rw [empty] at member
        contradiction
      · rw [splitAfter_of_not_mem absent empty, List.mem_singleton] at member
        rw [member] at ended
        exact absurd (List.mem_of_getLast? ended) absent
  | closed front later absent ih =>
      rw [splitAfter_append_cons absent, List.mem_cons] at member
      rcases member with rfl | member
      · refine ⟨front ++ [separator], later, by simp, .inr List.getLast?_concat, ?_⟩
        rw [splitAfter_append_cons absent]
        exact List.mem_cons_self
      · obtain ⟨more, last, rfl, closed, stands⟩ := ih member
        refine ⟨front ++ separator :: more, last, by simp,
          (closed_append_cons front).mpr closed, ?_⟩
        rw [splitAfter_append_cons absent]
        exact List.mem_cons_of_mem _ stands

end SplitAfter

/-! ## The line of an offset -/

theorem lines_of_not_mem {line : List Char} (absent : '\n' ∉ line) (nonempty : line ≠ []) :
    lines line = [line] :=
  splitAfter_of_not_mem absent nonempty

theorem lines_append_cons {line : List Char} (absent : '\n' ∉ line) (later : List Char) :
    lines (line ++ '\n' :: later) = (line ++ ['\n']) :: lines later :=
  splitAfter_append_cons absent later

/-- The first line of a text, with its line feed. -/
def firstLine (text : List Char) : List Char := (lines text).headD []

/-- What a text has behind its last line feed. -/
def lastLine (text : List Char) : List Char := text.rtakeWhile fun character => character ≠ '\n'

theorem lastLine_of_not_mem {text : List Char} (absent : '\n' ∉ text) : lastLine text = text := by
  rw [lastLine, List.rtakeWhile_eq_self_iff]
  intro character member
  exact decide_eq_true fun same => absent (same ▸ member)

theorem lastLine_append_cons (line later : List Char) :
    lastLine (line ++ '\n' :: later) = lastLine later := by
  simp only [lastLine, List.rtakeWhile, List.reverse_append, List.reverse_cons, List.append_assoc,
    List.singleton_append, List.takeWhile_append]
  split_ifs with whole
  · rw [(List.takeWhile_sublist _).eq_of_length whole]
    simp
  · rfl

theorem lineFeeds_eq_zero {text : List Char} (absent : '\n' ∉ text) : lineFeeds text = 0 :=
  List.count_eq_zero.mpr absent

theorem lineFeeds_append_cons {line : List Char} (absent : '\n' ∉ line) (later : List Char) :
    lineFeeds (line ++ '\n' :: later) = 1 + lineFeeds later := by
  rw [lineFeeds_append, lineFeeds_eq_zero absent, lineFeeds, List.count_cons_self, lineFeeds]
  omega

theorem byteSize_pos {text : List Char} (nonempty : text ≠ []) : 0 < byteSize text := by
  obtain ⟨character, rest, rfl⟩ := List.exists_cons_of_ne_nil nonempty
  have positive := character.utf8Size_pos
  simp only [byteSize_cons]
  omega

/-- The search goes over a closed line that ends before or at the offset. -/
theorem locateInLines_cons_closed (number : Nat) (line : List Char) (later : List (List Char))
    (column : Nat) :
    locateInLines number ((line ++ ['\n']) :: later) (byteSize (line ++ ['\n']) + column) =
      locateInLines (number + 1) later column := by
  have beyond : ¬ (byteSize (line ++ ['\n']) + column < byteSize (line ++ ['\n']) ∨
      (byteSize (line ++ ['\n']) + column = byteSize (line ++ ['\n']) ∧
        (line ++ ['\n']).getLast? ≠ some '\n')) := by
    rintro (short | ⟨-, unclosed⟩)
    · omega
    · exact unclosed List.getLast?_concat
  rw [locateInLines, if_neg beyond, Nat.add_sub_cancel_left]

theorem locateInLines_append (number : Nat) (before later : List Char) :
    locateInLines number (lines (before ++ later)) (byteSize before) =
      some ⟨number + lineFeeds before, lastLine before ++ firstLine later,
        byteSize (lastLine before)⟩ := by
  induction before using piecewise_induction '\n' generalizing number with
  | unclosed before absent =>
      rw [lastLine_of_not_mem absent, lineFeeds_eq_zero absent, Nat.add_zero]
      by_cases ended : before ++ later = []
      · obtain ⟨rfl, rfl⟩ := List.append_eq_nil_iff.mp ended
        rfl
      -- The offset is in the first line, or at its end if nothing follows there.
      have here : byteSize before < byteSize (before ++ firstLine later) ∨
          (byteSize before = byteSize (before ++ firstLine later) ∧
            (before ++ firstLine later).getLast? ≠ some '\n') := by
        by_cases last : firstLine later = []
        · right
          rw [last, List.append_nil]
          exact ⟨rfl, fun closed => absent (List.mem_of_getLast? closed)⟩
        · left
          have longer := byteSize_pos last
          rw [byteSize_append]
          omega
      rw [lines, splitAfter_append absent ended]
      exact if_pos here
  | closed line before absent ih =>
      have whole : byteSize (line ++ '\n' :: before) =
          byteSize (line ++ ['\n']) + byteSize before := by simp [Nat.add_assoc]
      rw [List.append_assoc, List.cons_append, lines_append_cons absent, whole,
        locateInLines_cons_closed, lineFeeds_append_cons absent, lastLine_append_cons,
        ← Nat.add_assoc]
      exact ih (number + 1)

/-- An offset at which a text can be cut is found on the line that goes on there. -/
theorem locate_append (before later : List Char) :
    locate (before ++ later) (byteSize before) =
      some ⟨1 + lineFeeds before, lastLine before ++ firstLine later,
        byteSize (lastLine before)⟩ :=
  locateInLines_append 1 before later

end LoxLexer.Text
