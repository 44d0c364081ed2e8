/-
# Every offset has one line

The search for an offset goes over the lines that are closed before it and stops at
the first line that reaches beyond it, or at one that the end of the text leaves
open. It finds the line of every offset up to the end, inside characters too, and
what a line of an offset is leaves no choice.
-/

import LoxLexer.Proofs.Text.SingleLine
import LoxLexer.Proofs.Text.Utf8

namespace LoxLexer.Text

/-- The spot shows where a byte offset of a text lies. -/
structure LineSpot.Shows (spot : LineSpot) (text : List Char) (offset : Nat) : Prop where
  /-- The line is a stretch of the text that begins at the front or behind a line feed,
  as many bytes before the offset as the column says. It reaches to a line feed or to
  the end. -/
  stands : ∃ before later, text = before ++ (spot.text ++ later) ∧
    byteSize before + spot.column = offset ∧ Closed '\n' before ∧
    (spot.text.getLast? = some '\n' ∨ later = [])
  single : '\n' ∉ spot.text.dropLast
  /-- The line feeds are counted in bytes, since the offset may be inside a character. -/
  number : spot.number = 1 + ((Utf8.encode text).take offset).count 10
  inside : offset ≠ byteSize text → spot.column < byteSize spot.text
  fresh : offset = byteSize text → Closed '\n' text → spot.text = [] ∧ spot.column = 0
  last : offset = byteSize text → ¬ Closed '\n' text → (lines text).getLast? = some spot.text

/-! ## Lines of which the end is known -/

theorem not_mem_of_getLast?_ne {line : List Char} (single : '\n' ∉ line.dropLast)
    (unclosed : line.getLast? ≠ some '\n') : '\n' ∉ line := by
  intro member
  have nonempty : line ≠ [] := List.ne_nil_of_mem member
  rw [← List.dropLast_append_getLast nonempty, List.mem_append, List.mem_singleton] at member
  rcases member with member | closing
  · exact single member
  · exact unclosed (List.getLast?_eq_some_getLast nonempty ▸ congrArg some closing.symm)

/-- A line that ends where it has to is divided from what follows. -/
theorem lines_line_append {line later : List Char} (nonempty : line ≠ [])
    (single : '\n' ∉ line.dropLast) (ends : line.getLast? = some '\n' ∨ later = []) :
    lines (line ++ later) = line :: lines later := by
  by_cases closed : line.getLast? = some '\n'
  · have whole : line.dropLast ++ ['\n'] = line := List.dropLast_append_getLast? '\n' closed
    have divided := lines_append_cons single later
    rwa [← List.singleton_append, ← List.append_assoc, whole] at divided
  · obtain rfl := ends.resolve_left closed
    rw [List.append_nil, lines_of_not_mem (not_mem_of_getLast?_ne single closed) nonempty]
    rfl

/-- The last line of a text is what stands behind its last line feed, if anything does. -/
theorem getLast?_lines {text : List Char} (unclosed : ¬ Closed '\n' text) :
    (lines text).getLast? = some (lastLine text) := by
  induction text using piecewise_induction '\n' with
  | unclosed text absent =>
      have nonempty : text ≠ [] := fun empty => unclosed (.inl empty)
      rw [lines_of_not_mem absent nonempty, lastLine_of_not_mem absent]
      rfl
  | closed line later absent ih =>
      rw [closed_append_cons] at unclosed
      rw [lines_append_cons absent, List.getLast?_cons, ih unclosed, lastLine_append_cons]
      rfl

/-! ## Going over closed lines -/

/-- The column lies in the line, or at its end if no line feed closes it. -/
def ReachesBeyond (line : List Char) (column : Nat) : Prop :=
  column < byteSize line ∨ (column = byteSize line ∧ line.getLast? ≠ some '\n')

theorem locateInLines_append_of_closed {before : List Char} (closed : Closed '\n' before)
    (number : Nat) (later : List (List Char)) (column : Nat) :
    locateInLines number (lines before ++ later) (byteSize before + column) =
      locateInLines (number + lineFeeds before) later column := by
  induction before using piecewise_induction '\n' generalizing number with
  | unclosed before absent =>
      rcases closed with rfl | ended
      · simp [lines, splitAfter]
      · exact absurd (List.mem_of_getLast? ended) absent
  | closed line before absent ih =>
      have left : byteSize (line ++ '\n' :: before) + column =
          byteSize (line ++ ['\n']) + (byteSize before + column) := by
        simp [Nat.add_assoc]
      rw [lines_append_cons absent, List.cons_append, left, locateInLines_cons_closed,
        ih ((closed_append_cons line).mp closed), lineFeeds_append_cons absent, Nat.add_assoc]

/-- An offset in a line that stands behind closed lines is found there. -/
theorem locate_of_stands {before line later : List Char} {column : Nat}
    (closed : Closed '\n' before) (single : '\n' ∉ line.dropLast)
    (ends : line.getLast? = some '\n' ∨ later = []) (here : ReachesBeyond line column) :
    locate (before ++ (line ++ later)) (byteSize before + column) =
      some ⟨1 + lineFeeds before, line, column⟩ := by
  have divided : lines (before ++ (line ++ later)) = lines before ++ lines (line ++ later) :=
    splitAfter_append_of_closed closed _
  rw [locate, divided, locateInLines_append_of_closed closed]
  by_cases empty : line = []
  · subst empty
    obtain rfl : later = [] := ends.resolve_left nofun
    obtain rfl : column = 0 := by
      rcases here with short | ⟨atEnd, -⟩
      · exact absurd short (Nat.not_lt_zero column)
      · exact atEnd
    rfl
  · rw [lines_line_append empty single ends]
    exact if_pos here

/-! ## The line of every offset -/

/-- Up to the end of the text every offset lies in some line. -/
theorem exists_line (text : List Char) {offset : Nat} (within : offset ≤ byteSize text) :
    ∃ before line later column, text = before ++ (line ++ later) ∧
      byteSize before + column = offset ∧ Closed '\n' before ∧ '\n' ∉ line.dropLast ∧
      (line.getLast? = some '\n' ∨ later = []) ∧ ReachesBeyond line column := by
  induction text using piecewise_induction '\n' generalizing offset with
  | unclosed text absent =>
      refine ⟨[], text, [], offset, by simp, by simp, .inl rfl, ?_, .inr rfl, ?_⟩
      · exact fun member => absent ((List.dropLast_sublist text).subset member)
      · rcases Nat.lt_or_eq_of_le within with short | atEnd
        · exact .inl short
        · exact .inr ⟨atEnd, fun closed => absent (List.mem_of_getLast? closed)⟩
  | closed line later absent ih =>
      by_cases first : offset < byteSize (line ++ ['\n'])
      · exact ⟨[], line ++ ['\n'], later, offset, by simp, by simp, .inl rfl, by simpa using absent,
          .inl List.getLast?_concat, .inl first⟩
      · have size : byteSize (line ++ '\n' :: later) =
            byteSize (line ++ ['\n']) + byteSize later := by simp [Nat.add_assoc]
        have left : offset - byteSize (line ++ ['\n']) ≤ byteSize later := by omega
        obtain ⟨before, found, behind, column, rfl, reached, closed, rules⟩ := ih left
        refine ⟨line ++ '\n' :: before, found, behind, column, by simp, ?_,
          (closed_append_cons line).mpr closed, rules⟩
        simp only [byteSize_append, byteSize_cons, byteSize_nil] at reached first ⊢
        omega

/-! ## Line feeds before an offset -/

theorem Utf8.count_encode (text : List Char) : (encode text).count 10 = lineFeeds text := by
  induction text using piecewise_induction '\n' with
  | unclosed text absent =>
      rw [lineFeeds_eq_zero absent]
      exact List.count_eq_zero.mpr (lineFeed_not_mem_encode absent)
  | closed line later absent ih =>
      have whole : encode (line ++ '\n' :: later) = encode line ++ 10 :: encode later := by
        rw [encode_append]
        rfl
      rw [whole, List.count_append, List.count_eq_zero.mpr (lineFeed_not_mem_encode absent),
        List.count_cons_self, ih, lineFeeds_append_cons absent]
      omega

/-- What a line has up to a column in it has no line feed. -/
theorem ReachesBeyond.exists_front {line : List Char} {column : Nat}
    (here : ReachesBeyond line column) (single : '\n' ∉ line.dropLast) :
    ∃ front rest, line = front ++ rest ∧ '\n' ∉ front ∧ column ≤ byteSize front := by
  by_cases closed : line.getLast? = some '\n'
  · have whole : line.dropLast ++ ['\n'] = line := List.dropLast_append_getLast? '\n' closed
    refine ⟨line.dropLast, ['\n'], whole.symm, single, ?_⟩
    rcases here with short | ⟨-, unclosed⟩
    · rw [← whole, byteSize_append, byteSize_cons, byteSize_nil] at short
      have size : Char.utf8Size '\n' = 1 := rfl
      omega
    · exact absurd closed unclosed
  · refine ⟨line, [], (List.append_nil line).symm, not_mem_of_getLast?_ne single closed, ?_⟩
    rcases here with short | ⟨atEnd, -⟩
    · exact Nat.le_of_lt short
    · exact Nat.le_of_eq atEnd

/-- Behind closed lines only these have line feeds before an offset in the next line. -/
theorem count_take_of_stands (before : List Char) {line : List Char} (later : List Char)
    {column : Nat} (single : '\n' ∉ line.dropLast) (here : ReachesBeyond line column) :
    ((Utf8.encode (before ++ (line ++ later))).take (byteSize before + column)).count 10 =
      lineFeeds before := by
  obtain ⟨front, rest, rfl, absent, within⟩ := here.exists_front single
  rw [← Utf8.length_encode] at within
  have silent : (10 : UInt8) ∉ (Utf8.encode front).take column :=
    fun member => Utf8.lineFeed_not_mem_encode absent (List.mem_of_mem_take member)
  rw [Utf8.encode_append, ← Utf8.length_encode before, List.take_length_add_append,
    List.append_assoc, Utf8.encode_append, List.take_append_of_le_length within,
    List.count_append, List.count_eq_zero.mpr silent, Utf8.count_encode, Nat.add_zero]

/-! ## The spot of an offset -/

namespace LineSpot

variable {spot : LineSpot} {text : List Char} {offset : Nat}

/-- A line that holds the offset at the end of the text is the open end of the text. -/
theorem open_of_atEnd {before line later : List Char} {column : Nat}
    (ends : line.getLast? = some '\n' ∨ later = []) (here : ReachesBeyond line column)
    (atEnd : byteSize before + column = byteSize (before ++ (line ++ later))) :
    later = [] ∧ column = byteSize line ∧ line.getLast? ≠ some '\n' := by
  rcases here with short | ⟨reached, unclosed⟩
  · simp only [byteSize_append] at atEnd
    omega
  · exact ⟨ends.resolve_left unclosed, reached, unclosed⟩

/-- What is known of a line that holds an offset makes it the spot of the offset. -/
theorem shows_of_stands {before line later : List Char} {column : Nat}
    (closed : Closed '\n' before) (single : '\n' ∉ line.dropLast)
    (ends : line.getLast? = some '\n' ∨ later = []) (here : ReachesBeyond line column) :
    (⟨1 + lineFeeds before, line, column⟩ : LineSpot).Shows (before ++ (line ++ later))
      (byteSize before + column) where
  stands := ⟨before, later, rfl, rfl, closed, ends⟩
  single := single
  number := by rw [count_take_of_stands before later single here]
  inside := by
    intro further
    rcases here with short | ⟨reached, unclosed⟩
    · exact short
    · obtain rfl := ends.resolve_left unclosed
      simp [reached] at further
  fresh := by
    intro atEnd allClosed
    obtain ⟨rfl, rfl, unclosed⟩ := open_of_atEnd ends here atEnd
    rw [List.append_nil] at allClosed
    have empty : line = [] := by
      rcases allClosed with none | ended
      · exact (List.append_eq_nil_iff.mp none).2
      · by_contra nonempty
        rw [List.getLast?_append_of_ne_nil _ nonempty] at ended
        exact unclosed ended
    subst empty
    exact ⟨rfl, rfl⟩
  last := by
    intro atEnd notClosed
    obtain ⟨rfl, -, unclosed⟩ := open_of_atEnd ends here atEnd
    have nonempty : line ≠ [] := by
      rintro rfl
      rw [List.append_nil, List.append_nil] at notClosed
      exact notClosed closed
    have divided : lines (before ++ (line ++ [])) = lines before ++ [line] := by
      rw [List.append_nil, lines, splitAfter_append_of_closed closed]
      exact congrArg _ (lines_of_not_mem (not_mem_of_getLast?_ne single unclosed) nonempty)
    rw [divided, List.getLast?_concat]

/-- The spot of an offset holds the offset in its line. -/
theorem Shows.reachesBeyond (shown : spot.Shows text offset) :
    ReachesBeyond spot.text spot.column := by
  obtain ⟨before, later, whole, reached, -, ends⟩ := shown.stands
  by_cases atEnd : offset = byteSize text
  · right
    by_cases closed : Closed '\n' text
    · obtain ⟨empty, first⟩ := shown.fresh atEnd closed
      rw [empty, first]
      exact ⟨rfl, nofun⟩
    · have same : lastLine text = spot.text :=
        Option.some.inj ((getLast?_lines closed).symm.trans (shown.last atEnd closed))
      have unclosed : spot.text.getLast? ≠ some '\n' := fun ended =>
        lineFeed_not_mem_lastLine text (same ▸ List.mem_of_getLast? ended)
      obtain rfl := ends.resolve_left unclosed
      refine ⟨?_, unclosed⟩
      rw [atEnd, whole] at reached
      simpa using reached
  · exact .inl (shown.inside atEnd)

end LineSpot

/-- No offset beyond the end of the text is found. -/
theorem le_byteSize_of_locateInLines {number : Nat} {pieces : List (List Char)} {offset : Nat}
    {spot : LineSpot} (found : locateInLines number pieces offset = some spot) :
    offset ≤ byteSize pieces.flatten := by
  induction pieces generalizing number offset with
  | nil =>
      unfold locateInLines at found
      split at found
      · next front => exact Nat.le_of_eq front
      · contradiction
  | cons line later ih =>
      rw [List.flatten_cons, byteSize_append]
      unfold locateInLines at found
      split at found
      · next here => omega
      · have left := ih found
        omega

theorem le_byteSize_of_locate {text : List Char} {offset : Nat} {spot : LineSpot}
    (found : locate text offset = some spot) : offset ≤ byteSize text := by
  have within := le_byteSize_of_locateInLines found
  rwa [lines, flatten_splitAfter] at within

/-- Offsets beyond the end of a text have no line, and every other offset has the one
spot that shows it. -/
theorem locate_finds_the_one_spot (text : List Char) (offset : Nat) :
    (locate text offset = none ↔ byteSize text < offset) ∧
      ∀ spot, locate text offset = some spot ↔ spot.Shows text offset := by
  constructor
  · constructor
    · intro nowhere
      by_contra within
      obtain ⟨before, line, later, column, rfl, rfl, closed, single, ends, here⟩ :=
        exists_line text (Nat.le_of_not_lt within)
      rw [locate_of_stands closed single ends here] at nowhere
      contradiction
    · intro beyond
      rw [Option.eq_none_iff_forall_ne_some]
      intro spot found
      exact Nat.not_le_of_lt beyond (le_byteSize_of_locate found)
  · intro spot
    constructor
    · intro found
      obtain ⟨before, line, later, column, rfl, rfl, closed, single, ends, here⟩ :=
        exists_line text (le_byteSize_of_locate found)
      rw [locate_of_stands closed single ends here] at found
      cases found
      exact LineSpot.shows_of_stands closed single ends here
    · intro shown
      have here := shown.reachesBeyond
      have single := shown.single
      have number := shown.number
      obtain ⟨before, later, rfl, rfl, closed, ends⟩ := shown.stands
      rw [count_take_of_stands before later single here] at number
      rw [locate_of_stands closed single ends here, ← number]

/-- An offset inside a character lies on the line of the character. -/
example : locate ['\n', 'é'] 2 = some ⟨2, ['é'], 1⟩ := by decide

end LoxLexer.Text
