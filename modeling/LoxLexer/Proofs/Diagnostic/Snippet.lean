/-
# A diagnostic on its line

Whatever its offset is, a diagnostic is shown line by line, and a line that is
refused is the last one. The first line is its one-line form, with the tip in
parentheses if there is one.

At an offset at which the source can be cut, a diagnostic is shown in five
lines. The fourth one has the number and the text of the line that goes on
there, and the marks of the fifth stand below what this line has before it.
-/

import LoxLexer.Diagnostic.Snippet
import LoxLexer.Proofs.Interaction.Room
import LoxLexer.Proofs.Text.SingleLine

namespace LoxLexer

namespace Text

/-- The line that goes on where a text is cut. -/
def spotAt (before later : List Char) : LineSpot :=
  ⟨1 + lineFeeds before, lastLine before ++ firstLine later, byteSize (lastLine before)⟩

theorem lineFeed_not_mem_dropLast_spotAt (before later : List Char) :
    '\n' ∉ (spotAt before later).text.dropLast := by
  have front := lineFeed_not_mem_lastLine before
  by_cases ended : firstLine later = []
  · rw [spotAt, ended, List.append_nil]
    exact fun member => front ((List.dropLast_sublist _).subset member)
  · rw [spotAt, List.dropLast_append_of_ne_nil ended, List.mem_append]
    rintro (member | member)
    · exact front member
    · exact lineFeed_not_mem_dropLast_firstLine later member

end Text

namespace Snippet

theorem marks?_spotAt (before later : List Char) :
    marks? (Text.spotAt before later) =
      some (((Text.lastLine before).drop
        ((Text.spotAt before later).text.takeWhile isIndentation).length).map mark) := by
  simp [marks?, Text.spotAt, Text.splitAtByte?_append]

/-- A spot up to which there are marks is shown in four lines. -/
theorem excerpt_of_marked {file : String} {spot : Text.LineSpot} {marks : List Char}
    (marked : marks? spot = some marks) :
    excerpt file spot =
      .ofLines ["-> " ++ file, gutter spot.number, sourceLine spot, caretLine spot.number marks]
        (.ok ()) := by
  simp only [excerpt, marked, Procedure.writeLine_eq_done (caretLine spot.number marks)]
  rfl

theorem excerpt_of_unmarked {file : String} {spot : Text.LineSpot} (unmarked : marks? spot = none) :
    excerpt file spot =
      .ofLines ["-> " ++ file, gutter spot.number, sourceLine spot] (.error .insideCharacter) := by
  simp only [excerpt, unmarked]
  rfl

end Snippet

namespace Diagnostic

/-! ## The header -/

/-- The one-line form of a diagnostic begins with its line, unless it belongs to no line. -/
inductive IsDisplayedAs (diagnostic : Diagnostic) : String → Prop
  | placed (line : diagnostic.line ≠ 0) : diagnostic.IsDisplayedAs
      ("[line " ++ diagnostic.line.repr ++ "] Error: " ++ diagnostic.cause.message)
  | placeless (line : diagnostic.line = 0) :
      diagnostic.IsDisplayedAs ("Error: " ++ diagnostic.cause.message)

/-- A diagnostic is headed by its one-line form, and a tip follows in parentheses. -/
inductive IsHeadedBy (diagnostic : Diagnostic) : String → Prop
  | plain {displayed : String} (display : diagnostic.IsDisplayedAs displayed)
      (unadvised : diagnostic.cause.tip? = none) : diagnostic.IsHeadedBy displayed
  | advised {displayed tip : String} (display : diagnostic.IsDisplayedAs displayed)
      (advice : diagnostic.cause.tip? = some tip) :
      diagnostic.IsHeadedBy (displayed ++ " (" ++ tip ++ ")")

theorem isDisplayedAs_display (diagnostic : Diagnostic) :
    diagnostic.IsDisplayedAs diagnostic.display := by
  unfold display
  split
  · next placeless => exact .placeless placeless
  · next placed => exact .placed placed

theorem isHeadedBy_header (diagnostic : Diagnostic) :
    diagnostic.IsHeadedBy diagnostic.header := by
  unfold header
  split
  · next unadvised => exact .plain diagnostic.isDisplayedAs_display unadvised
  · next advice => exact .advised diagnostic.isDisplayedAs_display advice

example : Diagnostic.header ⟨.unterminatedString, ⟨4, "m.lox"⟩, 2⟩ =
    "[line 2] Error: Unterminated string (add a closing \x60\"\x60 to the string)" := by
  decide +kernel

/-! ## The three ways in which a diagnostic is shown -/

/-- The lines that stand above the caret. -/
def opening (diagnostic : Diagnostic) (spot : Text.LineSpot) : List String :=
  [diagnostic.header, "-> " ++ diagnostic.position.file, Snippet.gutter spot.number,
    Snippet.sourceLine spot]

section

variable {diagnostic : Diagnostic} {source : List Char} {spot : Text.LineSpot}

theorem render_of_unlocated (nowhere : Text.locate source diagnostic.position.offset = none) :
    diagnostic.render source = .ofLines [diagnostic.header] (.ok ()) := by
  rw [render, nowhere]
  rfl

theorem render_of_marked (located : Text.locate source diagnostic.position.offset = some spot)
    {marks : List Char} (marked : Snippet.marks? spot = some marks) :
    diagnostic.render source =
      .ofLines (diagnostic.opening spot ++ [Snippet.caretLine spot.number marks]) (.ok ()) := by
  simp only [render, located, Snippet.excerpt_of_marked marked]
  rfl

theorem render_of_unmarked (located : Text.locate source diagnostic.position.offset = some spot)
    (unmarked : Snippet.marks? spot = none) :
    diagnostic.render source = .ofLines (diagnostic.opening spot) (.error .insideCharacter) := by
  simp only [render, located, Snippet.excerpt_of_unmarked unmarked]
  rfl

end

/-- The lines that show a diagnostic against a source. -/
def shownLines (diagnostic : Diagnostic) (source : List Char) : List String :=
  match Text.locate source diagnostic.position.offset with
  | none => [diagnostic.header]
  | some spot =>
    diagnostic.opening spot ++
      ((Snippet.marks? spot).map (Snippet.caretLine spot.number)).toList

/-- A diagnostic does nothing but write these lines. -/
theorem exists_render_eq (diagnostic : Diagnostic) (source : List Char) :
    ∃ result, diagnostic.render source = .ofLines (diagnostic.shownLines source) result := by
  cases located : Text.locate source diagnostic.position.offset with
  | none =>
      refine ⟨.ok (), ?_⟩
      simp only [render_of_unlocated located, shownLines, located]
  | some spot =>
      cases marked : Snippet.marks? spot with
      | none =>
          refine ⟨.error .insideCharacter, ?_⟩
          simp only [render_of_unmarked located marked, shownLines, located, marked,
            Option.map_none, Option.toList_none, List.append_nil]
      | some marks =>
          refine ⟨.ok (), ?_⟩
          simp only [render_of_marked located marked, shownLines, located, marked,
            Option.map_some, Option.toList_some]

theorem shownLines_ne_nil (diagnostic : Diagnostic) (source : List Char) :
    diagnostic.shownLines source ≠ [] := by
  unfold shownLines
  split <;> exact List.cons_ne_nil _ _

theorem stopsWhenRefused_render (diagnostic : Diagnostic) (source : List Char) :
    (diagnostic.render source).StopsWhenRefused :=
  ⟨_, diagnostic.exists_render_eq source⟩

theorem accepted_render (diagnostic : Diagnostic) (source : List Char) :
    (Outlet.unlimited.perform (diagnostic.render source)).accepted =
      lineBytes (diagnostic.shownLines source) := by
  obtain ⟨result, rendered⟩ := diagnostic.exists_render_eq source
  rw [rendered, Outlet.accepted_ofLines]

/-- The lines that show a diagnostic where its source is cut. -/
def snippet (diagnostic : Diagnostic) (before later : List Char) : List String :=
  let spot := Text.spotAt before later
  let marks := ((Text.lastLine before).drop
    (spot.text.takeWhile Snippet.isIndentation).length).map Snippet.mark
  diagnostic.opening spot ++ [Snippet.caretLine spot.number marks]

section

variable {diagnostic : Diagnostic} {before later : List Char}

theorem locate_append_of_stands (stands : diagnostic.position.offset = Text.byteSize before) :
    Text.locate (before ++ later) diagnostic.position.offset =
      some (Text.spotAt before later) := by
  rw [stands, Text.locate_append]
  rfl

/-- A diagnostic at an offset at which the source can be cut is shown in full. -/
theorem render_append (stands : diagnostic.position.offset = Text.byteSize before) :
    diagnostic.render (before ++ later) = .ofLines (diagnostic.snippet before later) (.ok ()) :=
  render_of_marked (locate_append_of_stands stands) (Snippet.marks?_spotAt before later)

theorem shownLines_append (stands : diagnostic.position.offset = Text.byteSize before) :
    diagnostic.shownLines (before ++ later) = diagnostic.snippet before later := by
  simp only [shownLines, locate_append_of_stands stands, Snippet.marks?_spotAt]
  rfl

end

end Diagnostic

/-! ## Each line of it is one line -/

namespace Snippet

theorem lineFeed_not_mem_gutter (number : Nat) : '\n' ∉ (gutter number).toList := by
  simp [gutter, List.mem_replicate]

theorem lineFeed_not_mem_sourceLine {spot : Text.LineSpot} (single : '\n' ∉ spot.text.dropLast) :
    '\n' ∉ (sourceLine spot).toList := by
  have number : '\n' ∉ spot.number.repr.toList := Text.not_mem_repr rfl _
  have inside : '\n' ∉ (spot.text.dropWhile isIndentation).dropLast := by
    intro member
    obtain ⟨front, whole⟩ := List.dropWhile_suffix isIndentation (l := spot.text)
    have nonempty : spot.text.dropWhile isIndentation ≠ [] :=
      fun empty => by simp [empty] at member
    apply single
    rw [← whole, List.dropLast_append_of_ne_nil nonempty]
    exact List.mem_append_right front member
  have shown := Text.lineFeed_not_mem_trimEnd inside
  simp only [sourceLine, String.toList_append, String.toList_ofList, List.mem_append, not_or]
  exact ⟨⟨number, by decide⟩, shown⟩

theorem lineFeed_not_mem_caretLine (number : Nat) (text : List Char) :
    '\n' ∉ (caretLine number (text.map mark)).toList := by
  have marks : '\n' ∉ text.map mark := by
    rw [List.mem_map]
    rintro ⟨character, -, marked⟩
    unfold mark at marked
    split at marked <;> contradiction
  simp only [caretLine, String.toList_append, String.toList_ofList, List.mem_append, not_or]
  exact ⟨⟨⟨lineFeed_not_mem_gutter number, by decide⟩, marks⟩, by decide⟩

end Snippet

namespace Diagnostic

theorem IsDisplayedAs.lineFeed_not_mem {diagnostic : Diagnostic} {displayed : String}
    (display : diagnostic.IsDisplayedAs displayed)
    (message : '\n' ∉ diagnostic.cause.message.toList) : '\n' ∉ displayed.toList := by
  have number : '\n' ∉ diagnostic.line.repr.toList := Text.not_mem_repr rfl _
  cases display with
  | placed =>
      simp only [String.toList_append, List.mem_append, not_or]
      exact ⟨⟨⟨by decide, number⟩, by decide⟩, message⟩
  | placeless =>
      simp only [String.toList_append, List.mem_append, not_or]
      exact ⟨by decide, message⟩

theorem IsHeadedBy.lineFeed_not_mem {diagnostic : Diagnostic} {header : String}
    (heads : diagnostic.IsHeadedBy header) (message : '\n' ∉ diagnostic.cause.message.toList)
    (tip : ∀ tip ∈ diagnostic.cause.tip?, '\n' ∉ tip.toList) : '\n' ∉ header.toList := by
  cases heads with
  | plain display => exact display.lineFeed_not_mem message
  | advised display advice =>
      simp only [String.toList_append, List.mem_append, not_or]
      exact ⟨⟨⟨display.lineFeed_not_mem message, by decide⟩, tip _ advice⟩, by decide⟩

theorem lineFeed_not_mem_snippet {diagnostic : Diagnostic}
    (header : '\n' ∉ diagnostic.header.toList)
    (file : '\n' ∉ diagnostic.position.file.toList) (before later : List Char) :
    ∀ line ∈ diagnostic.snippet before later, '\n' ∉ line.toList := by
  have name : '\n' ∉ ("-> " ++ diagnostic.position.file).toList := by
    simp only [String.toList_append, List.mem_append, not_or]
    exact ⟨by decide, file⟩
  have source := Snippet.lineFeed_not_mem_sourceLine
    (Text.lineFeed_not_mem_dropLast_spotAt before later)
  simp only [snippet, opening, List.cons_append, List.nil_append, List.forall_mem_cons]
  exact ⟨header, name, Snippet.lineFeed_not_mem_gutter _, source,
    Snippet.lineFeed_not_mem_caretLine _ _, nofun⟩

end Diagnostic

end LoxLexer
