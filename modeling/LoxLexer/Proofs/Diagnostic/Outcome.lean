/-
# What comes of showing a diagnostic

The offset of a diagnostic alone decides what is written. Beyond the end of the source
there is only the first line. At a boundary of characters there are all five lines. Inside
a character there are the first four, and then the source line is to be cut where it
cannot be. Nothing else is ever cut there, and an outlet that has no room for the four
lines refuses before it comes to that.
-/

import LoxLexer.Proofs.Diagnostic.Snippet
import LoxLexer.Proofs.Text.Boundary
import LoxLexer.Proofs.Text.Locate

namespace LoxLexer

namespace Snippet

/-- The number of spaces and tabs at the front of a line. -/
def indentation (line : List Char) : Nat := (line.takeWhile isIndentation).length

theorem byteSize_eq_length {blanks : List Char}
    (blank : ∀ character ∈ blanks, isIndentation character = true) :
    Text.byteSize blanks = blanks.length := by
  induction blanks with
  | nil => rfl
  | cons character rest ih =>
      obtain ⟨first, later⟩ := List.forall_mem_cons.mp blank
      have small : character.utf8Size = 1 := by
        simp only [isIndentation, Bool.or_eq_true, decide_eq_true_eq] at first
        rcases first with rfl | rfl <;> rfl
      rw [Text.byteSize_cons, small, ih later, List.length_cons, Nat.add_comm]

theorem length_le_byteSize (text : List Char) : text.length ≤ Text.byteSize text := by
  induction text with
  | nil => exact Nat.le_refl 0
  | cons character rest ih =>
      have positive := character.utf8Size_pos
      rw [List.length_cons, Text.byteSize_cons]
      omega

/-- The first characters of a line are indentation, also those of a front of the line. -/
theorem isIndentation_of_mem_take {front rest : List Char} {character : Char}
    (member : character ∈ front.take (indentation (front ++ rest))) :
    isIndentation character = true := by
  have whole : (front ++ rest).take (indentation (front ++ rest)) =
      (front ++ rest).takeWhile isIndentation :=
    List.prefix_iff_eq_take.mp (List.takeWhile_prefix isIndentation) |>.symm
  apply List.mem_takeWhile_imp (l := front ++ rest)
  rw [← whole, List.take_append]
  exact List.mem_append_left _ member

/-- What a line has of its indentation before a column takes as many bytes as the
smaller of both. -/
theorem byteSize_take_indentation (front rest : List Char) :
    Text.byteSize (front.take (indentation (front ++ rest))) =
      min (indentation (front ++ rest)) (Text.byteSize front) := by
  have blank : ∀ character ∈ front.take (indentation (front ++ rest)),
      isIndentation character = true := fun _ => isIndentation_of_mem_take
  rw [byteSize_eq_length blank, List.length_take]
  rcases Nat.le_total (indentation (front ++ rest)) front.length with short | long
  · have bytes := length_le_byteSize front
    omega
  · rw [List.take_of_length_le long] at blank
    rw [byteSize_eq_length blank]

/-- The marks stand for the part of the line between the end of its indentation, or the
column if that comes first, and the column. These two are always in order, so there are
no marks only where the column is beyond the line or inside a character. -/
theorem marks?_eq_slice? (spot : Text.LineSpot) :
    marks? spot =
      (Text.slice? (min (indentation spot.text) spot.column) spot.column spot.text).map
        (List.map mark) := by
  rw [marks?, Text.slice?]
  cases cut : Text.splitAtByte? spot.column spot.text with
  | none => rfl
  | some parts =>
      obtain ⟨front, rest⟩ := parts
      obtain ⟨whole, size⟩ := Text.append_eq_of_splitAtByte? cut
      have before := Text.splitAtByte?_append (front.take (indentation (front ++ rest)))
        (front.drop (indentation (front ++ rest)))
      rw [List.take_append_drop, byteSize_take_indentation, whole, size] at before
      simp only [Option.map_some, Option.bind_some, before]
      rfl

/-- The lines above a caret: an empty gutter as wide as the number, and the line itself with
its number, without the spaces and tabs at its front and the white space at its end. -/
structure IsExcerptedAs (spot : Text.LineSpot) (gutterLine shownLine : String) : Prop where
  gutter : gutterLine = .ofList (List.replicate (spot.number.repr.length + 1) ' ' ++ ['|'])
  shown : ∃ text trailing,
    shownLine = spot.number.repr ++ " | " ++ .ofList text ∧
      (spot.text.dropWhile fun character => character = ' ' || character = '\t') =
        text ++ trailing ∧
      (∀ character ∈ trailing, Text.isWhiteSpace character = true) ∧
      ∀ last ∈ text.getLast?, Text.isWhiteSpace last = false

/-- The line with the caret: behind the gutter stands a mark for each character, and a tab
stays a tab. -/
def caretUnder (gutterLine : String) (marked : List Char) : String :=
  gutterLine ++ " " ++
    .ofList (marked.map fun character => if character = '\t' then '\t' else '-') ++ "^"

theorem isExcerptedAs (spot : Text.LineSpot) :
    IsExcerptedAs spot (gutter spot.number) (sourceLine spot) where
  gutter := rfl
  shown := by
    obtain ⟨trailing, parts, blank⟩ :=
      Text.exists_append_of_trimEnd (spot.text.dropWhile isIndentation)
    refine ⟨_, trailing, rfl, parts, List.all_eq_true.mp blank, ?_⟩
    intro last ends
    rw [Text.trimEnd, List.getLast?_reverse] at ends
    have visible := List.head?_dropWhile_not Text.isWhiteSpace
      (spot.text.dropWhile isIndentation).reverse
    rwa [Option.mem_def.mp ends] at visible

end Snippet

namespace Diagnostic

variable {diagnostic : Diagnostic} {source : List Char}

/-! ## What an outlet takes of it -/

theorem takes_of_beyond (outlet : Outlet)
    (beyond : Text.byteSize source < diagnostic.position.offset) :
    outlet.Takes (outlet.perform (diagnostic.render source)) (lineBytes [diagnostic.header])
      (.ok ()) := by
  have nowhere : Text.locate source diagnostic.position.offset = none := by
    rw [Option.eq_none_iff_forall_ne_some]
    intro spot found
    exact Nat.not_le_of_lt beyond (Text.le_byteSize_of_locate found)
  rw [render_of_unlocated nowhere]
  exact outlet.takes_ofLines _ _

theorem takes_of_isBoundary (outlet : Outlet)
    (boundary : Text.IsBoundary source diagnostic.position.offset) :
    ∃ spot marked, Text.locate source diagnostic.position.offset = some spot ∧
      Text.slice? (min (Snippet.indentation spot.text) spot.column) spot.column spot.text =
        some marked ∧
      outlet.Takes (outlet.perform (diagnostic.render source))
        (lineBytes [diagnostic.header, "-> " ++ diagnostic.position.file,
          Snippet.gutter spot.number, Snippet.sourceLine spot,
          Snippet.caretUnder (Snippet.gutter spot.number) marked])
        (.ok ()) := by
  obtain ⟨before, later, rfl, stands⟩ := boundary
  have located : Text.locate (before ++ later) diagnostic.position.offset =
      some (Text.spotAt before later) := locate_append_of_stands stands.symm
  have marks := Snippet.marks?_spotAt before later
  have cut := marks
  rw [Snippet.marks?_eq_slice?] at cut
  obtain ⟨marked, found, same⟩ := Option.map_eq_some_iff.mp cut
  refine ⟨_, marked, located, found, ?_⟩
  rw [render_of_marked located marks, ← same]
  exact outlet.takes_ofLines _ _

theorem takes_of_isInside (outlet : Outlet)
    (inside : Text.IsInside source diagnostic.position.offset) :
    ∃ spot, Text.locate source diagnostic.position.offset = some spot ∧
      outlet.Takes (outlet.perform (diagnostic.render source))
        (lineBytes [diagnostic.header, "-> " ++ diagnostic.position.file,
          Snippet.gutter spot.number, Snippet.sourceLine spot])
        (.error .insideCharacter) := by
  obtain ⟨before, line, later, column, whole, stands, closed, single, ends, here⟩ :=
    Text.exists_line source inside.le_byteSize
  have located := Text.locate_of_stands closed single ends here
  rw [stands, ← whole] at located
  have unmarked : Snippet.marks? ⟨1 + Text.lineFeeds before, line, column⟩ = none := by
    rw [Snippet.marks?, Option.map_eq_none_iff, Option.eq_none_iff_forall_ne_some]
    -- A cut of the line would be a cut of the source.
    rintro ⟨front, rest⟩ cut
    obtain ⟨rfl, rfl⟩ := Text.append_eq_of_splitAtByte? cut
    apply inside.not_isBoundary
    exact ⟨before ++ front, rest ++ later, by simp [whole], by simp [stands]⟩
  refine ⟨_, located, ?_⟩
  rw [render_of_unmarked located unmarked]
  exact outlet.takes_ofLines _ _

/-- Only an offset inside a character comes to a cut there. -/
theorem isInside_of_result {outlet : Outlet}
    (cut : (outlet.perform (diagnostic.render source)).result = .error .insideCharacter) :
    Text.IsInside source diagnostic.position.offset := by
  rcases Text.beyond_or_isBoundary_or_isInside source diagnostic.position.offset with
    beyond | boundary | inside
  · exact absurd cut ((takes_of_beyond outlet beyond).result_ne nofun nofun)
  · obtain ⟨_, _, _, _, takes⟩ := takes_of_isBoundary outlet boundary
    exact absurd cut (takes.result_ne nofun nofun)
  · exact inside

/-- Every offset is beyond the end, a boundary or inside a character. Accordingly the header
is written alone, or five lines are, or four lines before a cut inside a character, as far as
the outlet has room. No other offset comes to such a cut. -/
theorem outcome_is_decided_by_offset (diagnostic : Diagnostic) (source : List Char)
    (outlet : Outlet) :
    let offset := diagnostic.position.offset
    let performance := outlet.perform (diagnostic.render source)
    (Text.byteSize source < offset ∨ Text.IsBoundary source offset ∨
      Text.IsInside source offset) ∧
    ∃ header, diagnostic.IsHeadedBy header ∧
    (Text.byteSize source < offset → outlet.Takes performance (lineBytes [header]) (.ok ())) ∧
    (Text.IsBoundary source offset →
      ∃ spot marked gutterLine shownLine,
        Text.locate source offset = some spot ∧
        Text.slice? (min (Snippet.indentation spot.text) spot.column) spot.column spot.text =
          some marked ∧
        Snippet.IsExcerptedAs spot gutterLine shownLine ∧
        outlet.Takes performance
          (lineBytes [header, "-> " ++ diagnostic.position.file, gutterLine, shownLine,
            Snippet.caretUnder gutterLine marked])
          (.ok ())) ∧
    (Text.IsInside source offset →
      ∃ spot gutterLine shownLine,
        Text.locate source offset = some spot ∧
        Snippet.IsExcerptedAs spot gutterLine shownLine ∧
        outlet.Takes performance
          (lineBytes [header, "-> " ++ diagnostic.position.file, gutterLine, shownLine])
          (.error .insideCharacter)) ∧
    (performance.result = .error .insideCharacter → Text.IsInside source offset) := by
  intro offset performance
  refine ⟨Text.beyond_or_isBoundary_or_isInside source offset, diagnostic.header,
    diagnostic.isHeadedBy_header, takes_of_beyond outlet, ?_, ?_, isInside_of_result⟩
  · intro boundary
    obtain ⟨spot, marked, located, found, takes⟩ := takes_of_isBoundary outlet boundary
    exact ⟨spot, marked, _, _, located, found, Snippet.isExcerptedAs spot, takes⟩
  · intro inside
    obtain ⟨spot, located, takes⟩ := takes_of_isInside outlet inside
    exact ⟨spot, _, _, located, Snippet.isExcerptedAs spot, takes⟩

end Diagnostic

end LoxLexer
