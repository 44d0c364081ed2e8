/-
# The caret stands under its character

The last three lines of a snippet have their bars in one column, which depends on the
number of the line. The source line is printed without its indentation, and there is one
mark for each character that is left before the spot, however many bytes it takes. So the
caret is in the column of the character at the spot, or in the first column of the text
if the spot is in the indentation.
-/

import LoxLexer.Proofs.Diagnostic.Outcome

namespace LoxLexer

namespace Text

/-- Only the end of a text is trimmed: what stands before something visible stays. -/
theorem trimEnd_append_of_visible (front : List Char) {rest : List Char}
    (visible : isBlank rest = false) : trimEnd (front ++ rest) = front ++ trimEnd rest := by
  have stays : rest.reverse.dropWhile isWhiteSpace ≠ [] := by
    intro empty
    rw [List.dropWhile_eq_nil_iff] at empty
    have blank : isBlank rest = true :=
      List.all_eq_true.mpr fun character member => empty character (List.mem_reverse.mpr member)
    rw [visible] at blank
    contradiction
  have kept : (rest.reverse.dropWhile isWhiteSpace).isEmpty = false := by
    simpa [List.isEmpty_eq_false_iff] using stays
  rw [trimEnd, List.reverse_append, List.dropWhile_append, kept, if_neg Bool.false_ne_true,
    List.reverse_append, List.reverse_reverse, trimEnd]

/-- Trimming leaves the first character of a text that has something visible. -/
theorem head?_trimEnd_of_visible {text : List Char} (visible : isBlank text = false) :
    (trimEnd text).head? = text.head? := by
  obtain ⟨trailing, whole, blank⟩ := exists_append_of_trimEnd text
  have nonempty : trimEnd text ≠ [] := by
    intro empty
    rw [empty, List.nil_append] at whole
    rw [whole, blank] at visible
    contradiction
  conv => rhs; rw [whole, List.head?_append_of_ne_nil _ nonempty]

theorem head?_firstLine (text : List Char) : (firstLine text).head? = text.head? := by
  cases text with
  | nil => rfl
  | cons character rest =>
      rw [firstLine, lines, splitAfter]
      split
      · rfl
      · split <;> rfl

end Text

namespace Snippet

/-- The column of the first such character in a line, counted in characters from zero. -/
def columnOf? (character : Char) (line : String) : Option Nat := line.toList.idxOf? character

theorem columnOf?_eq_some {character : Char} {line : String} {front rest : List Char}
    (whole : line.toList = front ++ character :: rest) (absent : character ∉ front) :
    columnOf? character line = some front.length := by
  rw [columnOf?, whole, List.idxOf?_eq_some_iff]
  refine ⟨by simp, by simp, ?_⟩
  intro index earlier same
  rw [List.getElem_append_left earlier] at same
  exact absent (same ▸ List.getElem_mem earlier)

/-- The last three lines of a snippet point to a spot. The line of the spot is `passed` up
to the column and then `rest`. -/
structure PointsTo (spot : Text.LineSpot) (passed rest : List Char)
    (gutterLine shownLine caretLine : String) : Prop where
  /-- The bars stand below each other, behind the digits of the number and a space. -/
  bars : ∀ line ∈ [gutterLine, shownLine, caretLine],
    columnOf? '|' line = some (spot.number.repr.length + 1)
  /-- The number and the line without its indentation are shown, but for white space at
  the end. -/
  shown : ∃ trailing, Text.isBlank trailing = true ∧
    shownLine.toList ++ trailing =
      (spot.number.repr ++ " | ").toList ++ spot.text.drop (indentation spot.text)
  /-- Behind the indentation the caret is in the column in which the line goes on from the
  spot, and the character there is shown if anything visible follows. -/
  under : indentation spot.text ≤ spot.column → ∃ front,
    (spot.number.repr ++ " | ").toList ++ spot.text.drop (indentation spot.text) = front ++ rest ∧
      columnOf? '^' caretLine = some front.length ∧
      (Text.isBlank rest = false → shownLine.toList[front.length]? = rest.head?)
  indented : spot.column < indentation spot.text →
    columnOf? '^' caretLine = some (spot.number.repr ++ " | ").length
  /-- One mark stands for each character from the end of the indentation, or from the
  spot if that comes first, up to the spot. -/
  marks : ∃ between,
    Text.slice? (min (indentation spot.text) spot.column) spot.column spot.text = some between ∧
      caretLine.toList = gutterLine.toList ++ ' ' ::
        ((between.map fun character => if character = '\t' then '\t' else '-') ++ ['^'])

/-! ## The bars -/

theorem toList_gutter (number : Nat) :
    (gutter number).toList = List.replicate (number.repr.length + 1) ' ' ++ ['|'] :=
  String.toList_ofList

theorem columnOf?_gutter_append {number : Nat} {line : String} {rest : List Char}
    (whole : line.toList = (gutter number).toList ++ rest) :
    columnOf? '|' line = some (number.repr.length + 1) := by
  rw [toList_gutter, List.append_assoc, List.singleton_append] at whole
  have absent : '|' ∉ List.replicate (number.repr.length + 1) ' ' := by simp [List.mem_replicate]
  rw [columnOf?_eq_some whole absent, List.length_replicate]

theorem columnOf?_sourceLine (spot : Text.LineSpot) :
    columnOf? '|' (sourceLine spot) = some (spot.number.repr.length + 1) := by
  have whole : (sourceLine spot).toList = (spot.number.repr.toList ++ [' ']) ++ '|' :: ' ' ::
      Text.trimEnd (spot.text.dropWhile isIndentation) := by
    simp [sourceLine]
  have absent : '|' ∉ spot.number.repr.toList ++ [' '] := by
    rw [List.mem_append, not_or]
    exact ⟨Text.not_mem_repr rfl _, by decide⟩
  rw [columnOf?_eq_some whole absent, List.length_append, String.length_toList]
  rfl

/-! ## The caret -/

theorem mark_ne_caret (character : Char) : mark character ≠ '^' := by
  unfold mark
  split <;> decide

theorem toList_caretLine (number : Nat) (marks : List Char) :
    (caretLine number marks).toList = (gutter number).toList ++ ' ' :: (marks ++ ['^']) := by
  simp [caretLine]

/-- The caret is behind the bar, a space and the marks. -/
theorem columnOf?_caretLine (number : Nat) (text : List Char) :
    columnOf? '^' (caretLine number (text.map mark)) =
      some ((number.repr ++ " | ").length + text.length) := by
  have whole : (caretLine number (text.map mark)).toList =
      ((gutter number).toList ++ ' ' :: text.map mark) ++ '^' :: [] := by
    simp [toList_caretLine]
  have absent : '^' ∉ (gutter number).toList ++ ' ' :: text.map mark := by
    simp [toList_gutter, List.mem_replicate, mark_ne_caret]
  have bar : " | ".length = 3 := rfl
  rw [columnOf?_eq_some whole absent, toList_gutter]
  simp only [List.length_append, List.length_cons, List.length_replicate, List.length_nil,
    List.length_map, String.length_append, Option.some.injEq]
  omega

theorem drop_indentation (line : List Char) :
    line.drop (indentation line) = line.dropWhile isIndentation := by
  calc line.drop (indentation line)
      = (line.takeWhile isIndentation ++ line.dropWhile isIndentation).drop
          (line.takeWhile isIndentation).length := by
        rw [List.takeWhile_append_dropWhile, indentation]
    _ = line.dropWhile isIndentation := List.drop_left

/-- A column behind the indentation is behind its characters. -/
theorem indentation_le_length {passed rest : List Char}
    (behind : indentation (passed ++ rest) ≤ Text.byteSize passed) :
    indentation (passed ++ rest) ≤ passed.length := by
  by_contra short
  have part : passed.take (indentation (passed ++ rest)) = passed :=
    List.take_of_length_le (by omega)
  have blank : ∀ character ∈ passed, isIndentation character = true := by
    intro character member
    exact isIndentation_of_mem_take (part.symm ▸ member)
  have size := byteSize_eq_length blank
  omega

theorem pointsTo_of_splitAtByte? {spot : Text.LineSpot} {passed rest : List Char}
    (cut : Text.splitAtByte? spot.column spot.text = some (passed, rest)) :
    PointsTo spot passed rest (gutter spot.number) (sourceLine spot)
      (caretLine spot.number ((passed.drop (indentation spot.text)).map mark)) := by
  obtain ⟨whole, size⟩ := Text.append_eq_of_splitAtByte? cut
  constructor
  case bars =>
    simp only [List.forall_mem_cons]
    refine ⟨columnOf?_gutter_append (List.append_nil _).symm, columnOf?_sourceLine spot,
      columnOf?_gutter_append (toList_caretLine ..), nofun⟩
  case shown =>
    obtain ⟨trailing, parts, blank⟩ :=
      Text.exists_append_of_trimEnd (spot.text.dropWhile isIndentation)
    refine ⟨trailing, blank, ?_⟩
    rw [drop_indentation, sourceLine, String.toList_append, String.toList_ofList,
      List.append_assoc, ← parts]
  case under =>
    intro behind
    rw [← size, ← whole] at behind
    have inside := indentation_le_length behind
    rw [whole] at inside
    -- What is printed of the line goes on over the spot.
    have left : spot.text.drop (indentation spot.text) =
        passed.drop (indentation spot.text) ++ rest := by
      rw [← whole, List.drop_append_of_le_length]
      rw [whole]
      exact inside
    refine ⟨(spot.number.repr ++ " | ").toList ++ passed.drop (indentation spot.text), ?_, ?_, ?_⟩
    · rw [left, List.append_assoc]
    · rw [columnOf?_caretLine, List.length_append, String.length_toList]
    · intro visible
      have printed : (sourceLine spot).toList = ((spot.number.repr ++ " | ").toList ++
          passed.drop (indentation spot.text)) ++ Text.trimEnd rest := by
        rw [sourceLine, ← drop_indentation, left, Text.trimEnd_append_of_visible _ visible,
          String.toList_append, String.toList_ofList, List.append_assoc]
      rw [printed, List.getElem?_append_right (Nat.le_refl _), Nat.sub_self,
        ← List.head?_eq_getElem?, Text.head?_trimEnd_of_visible visible]
  case indented =>
    intro before
    -- Before the spot there is nothing but indentation, so no mark is left.
    have none : passed.drop (indentation spot.text) = [] := by
      apply List.drop_eq_nil_of_le
      have bytes := length_le_byteSize passed
      omega
    rw [columnOf?_caretLine, none]
    rfl
  case marks =>
    have marked : marks? spot = some ((passed.drop (indentation spot.text)).map mark) := by
      rw [marks?, cut]
      rfl
    rw [marks?_eq_slice?] at marked
    obtain ⟨between, found, same⟩ := Option.map_eq_some_iff.mp marked
    refine ⟨between, found, ?_⟩
    rw [toList_caretLine, ← same]
    rfl

end Snippet

namespace Diagnostic

/-- Where a source can be cut, a diagnostic is shown in five lines, and the last three
point to the character that begins there. -/
theorem caret_stands_under_character {diagnostic : Diagnostic} {source before later : List Char}
    (cut : Text.splitAtByte? diagnostic.position.offset source = some (before, later)) :
    ∃ spot passed rest, Text.locate source diagnostic.position.offset = some spot ∧
      Text.splitAtByte? spot.column spot.text = some (passed, rest) ∧
      rest.head? = later.head? ∧
      ∃ gutterLine shownLine caretLine,
        (∀ line ∈ [gutterLine, shownLine, caretLine], '\n' ∉ line.toList) ∧
        (Outlet.unlimited.perform (diagnostic.render source)).accepted =
          lineBytes [diagnostic.header, "-> " ++ diagnostic.position.file, gutterLine, shownLine,
            caretLine] ∧
        Snippet.PointsTo spot passed rest gutterLine shownLine caretLine := by
  obtain ⟨rfl, stands⟩ := Text.append_eq_of_splitAtByte? cut
  let spot := Text.spotAt before later
  have located : Text.locate (before ++ later) diagnostic.position.offset = some spot :=
    locate_append_of_stands stands.symm
  have line : Text.splitAtByte? spot.column spot.text =
      some (Text.lastLine before, Text.firstLine later) := Text.splitAtByte?_append ..
  have rendered : diagnostic.render (before ++ later) =
      .ofLines (diagnostic.snippet before later) (.ok ()) := render_append stands.symm
  refine ⟨spot, _, _, located, line, Text.head?_firstLine later, _, _, _, ?_, ?_,
    Snippet.pointsTo_of_splitAtByte? line⟩
  · simp only [List.forall_mem_cons]
    exact ⟨Snippet.lineFeed_not_mem_gutter _,
      Snippet.lineFeed_not_mem_sourceLine (Text.lineFeed_not_mem_dropLast_spotAt before later),
      Snippet.lineFeed_not_mem_caretLine _ _, nofun⟩
  · rw [rendered, Outlet.accepted_ofLines]
    rfl

/-- A stray character in the tenth line, behind a leading tab, a letter of two bytes and
another tab. -/
def strayBehindTabs : List Char := List.replicate 9 '\n' ++ ['\t', 'é', '\t', '@', ' ']

/-- The stray character has byte column 4 and is the third of the characters shown. -/
theorem caret_stands_under_character_strayBehindTabs :
    let stray : Diagnostic := ⟨.unexpectedCharacter '@', ⟨13, "stray.lox"⟩, 10⟩
    Text.splitAtByte? 13 strayBehindTabs =
        some (List.replicate 9 '\n' ++ ['\t', 'é', '\t'], ['@', ' ']) ∧
      ∃ gutterLine shownLine caretLine,
        (Outlet.unlimited.perform (stray.render strayBehindTabs)).accepted =
          lineBytes [stray.header, "-> stray.lox", gutterLine, shownLine, caretLine] ∧
        Snippet.PointsTo ⟨10, ['\t', 'é', '\t', '@', ' '], 4⟩ ['\t', 'é', '\t'] ['@', ' ']
          gutterLine shownLine caretLine := by
  intro stray
  have cut : Text.splitAtByte? stray.position.offset strayBehindTabs =
      some (List.replicate 9 '\n' ++ ['\t', 'é', '\t'], ['@', ' ']) := by decide +kernel
  have located : Text.locate strayBehindTabs stray.position.offset =
      some ⟨10, ['\t', 'é', '\t', '@', ' '], 4⟩ := by decide +kernel
  have line : Text.splitAtByte? 4 ['\t', 'é', '\t', '@', ' '] =
      some (['\t', 'é', '\t'], ['@', ' ']) := by decide +kernel
  obtain ⟨spot, passed, rest, found, parts, -, gutterLine, shownLine, caretLine, -, written,
    points⟩ := caret_stands_under_character cut
  cases found.symm.trans located
  cases parts.symm.trans line
  exact ⟨cut, gutterLine, shownLine, caretLine, written, points⟩

end Diagnostic

end LoxLexer
