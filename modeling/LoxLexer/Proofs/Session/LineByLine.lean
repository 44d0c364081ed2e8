/-
# Scanning line by line

A text can be divided by dividing its lines one after another, as the prompt reads
them, if none of them leaves a string open. Behind each line stand the line feed
and the carriage return that the prompt drops, and these give nothing.
-/

import LoxLexer.Proofs.Scan.Barrier
import LoxLexer.Proofs.Scan.CarriageReturn
import LoxLexer.Proofs.Scan.Reported
import LoxLexer.Proofs.Text.Lines
import LoxLexer.Session.Prompt

namespace LoxLexer

namespace Text

/-! ## Lines as the prompt reads them -/

/-- A line as the prompt scans it: without its line feed and then a carriage return. -/
def bareLine (line : List Char) : List Char :=
  PromptCommand.dropEnding '\r' (PromptCommand.dropEnding '\n' line)

theorem bareLine_append_lineFeed (line : List Char) :
    bareLine (line ++ ['\n']) = PromptCommand.dropEnding '\r' line := by
  simp [bareLine, PromptCommand.dropEnding]

theorem bareLine_of_not_mem {line : List Char} (absent : '\n' ∉ line) :
    bareLine line = PromptCommand.dropEnding '\r' line := by
  have unclosed : line.getLast? ≠ some '\n' := fun closed => absent (List.mem_of_getLast? closed)
  simp [bareLine, PromptCommand.dropEnding, unclosed]

theorem lineFeed_not_mem_dropEnding {line : List Char} (absent : '\n' ∉ line) :
    '\n' ∉ PromptCommand.dropEnding '\r' line := by
  unfold PromptCommand.dropEnding
  split
  · exact fun member => absent (List.dropLast_subset line member)
  · exact absent

/-- No line that the prompt scans has a line feed in it. -/
theorem lineFeed_not_mem_bareLine {text line : List Char} (member : line ∈ lines text) :
    '\n' ∉ bareLine line := by
  induction text using piecewise_induction '\n' with
  | unclosed piece absent =>
      by_cases empty : piece = []
      · rw [empty] at member
        contradiction
      · rw [lines_of_not_mem absent empty, List.mem_singleton] at member
        rw [member, bareLine_of_not_mem absent]
        exact lineFeed_not_mem_dropEnding absent
  | closed piece later absent ih =>
      rw [lines_append_cons absent, List.mem_cons] at member
      rcases member with rfl | member
      · rw [bareLine_append_lineFeed]
        exact lineFeed_not_mem_dropEnding absent
      · exact ih member

/-! ## What stands before a line -/

/-- What stands before the line with the given index. -/
def beforeLine (text : List Char) (index : Nat) : List Char := ((lines text).take index).flatten

theorem beforeLine_zero (text : List Char) : beforeLine text 0 = [] := rfl

theorem beforeLine_succ {line : List Char} (absent : '\n' ∉ line) (later : List Char)
    (index : Nat) :
    beforeLine (line ++ '\n' :: later) (index + 1) = line ++ ['\n'] ++ beforeLine later index := by
  rw [beforeLine, lines_append_cons absent, List.take_succ_cons, List.flatten_cons]
  rfl

/-- Before the line with an index stand as many line feeds. -/
theorem lineFeeds_beforeLine {text : List Char} {index : Nat}
    (within : index < (lines text).length) : lineFeeds (beforeLine text index) = index := by
  induction text using piecewise_induction '\n' generalizing index with
  | unclosed line absent =>
      have first : index = 0 := by
        by_cases empty : line = []
        · rw [empty] at within
          contradiction
        · rw [lines_of_not_mem absent empty] at within
          exact Nat.lt_one_iff.mp within
      rw [first, beforeLine_zero]
      rfl
  | closed line later absent ih =>
      cases index with
      | zero => rfl
      | succ index =>
          rw [lines_append_cons absent, List.length_cons] at within
          have behind := ih (Nat.lt_of_succ_lt_succ within)
          have ending : lineFeeds ['\n'] = 1 := rfl
          rw [beforeLine_succ absent, lineFeeds_append, lineFeeds_append, lineFeeds_eq_zero absent,
            ending, behind]
          omega

end Text

/-! ## Dividing the lines one after another -/

/-- A line can be divided like its text without a carriage return at its end. -/
theorem Division.exists_of_dropEnding {line : List Char}
    (closed : ∀ content,
      .openString content ∉ Segment.split (PromptCommand.dropEnding '\r' line)) :
    ∃ segments, Division line segments ∧ (∀ content, .openString content ∉ segments) ∧
      ∀ {found : Type} (give : PlacedSegment → Option found), PlacedSegment.PassesOver give →
        ∀ place : Place, (place.layOut segments).filterMap give =
          (place.layOut (Segment.split (PromptCommand.dropEnding '\r' line))).filterMap give := by
  unfold PromptCommand.dropEnding at closed ⊢
  -- Only if a carriage return was dropped is there anything to put back.
  split at closed
  · next ending =>
      have whole : line.dropLast ++ ['\r'] = line :=
        List.dropLast_append_getLast? '\r' ending
      rw [if_pos ending]
      have restored := (Segment.division_split line.dropLast).append_carriage_return closed
      rwa [whole] at restored
  · next unended =>
      rw [if_neg unended]
      exact ⟨Segment.split line, Segment.division_split line, closed, fun _ _ _ => rfl⟩

/-- A text whose lines leave no string open gives what its lines give, each of them
placed behind the lines before it. -/
theorem Division.exists_of_lines {text : List Char}
    (closed : ∀ line ∈ Text.lines text, ∀ content,
      .openString content ∉ Segment.split (Text.bareLine line)) :
    ∃ segments, Division text segments ∧
      ∀ {found : Type} (give : PlacedSegment → Option found), PlacedSegment.PassesOver give →
        ∀ place : Place, (place.layOut segments).filterMap give =
          (Text.lines text).zipIdx.flatMap fun (line, index) =>
            ((place.after (Text.beforeLine text index)).layOut
              (Segment.split (Text.bareLine line))).filterMap give := by
  induction text using Text.piecewise_induction '\n' with
  | unclosed line absent =>
      by_cases empty : line = []
      · rw [empty]
        exact ⟨[], .nil, fun _ _ _ => rfl⟩
      have only : Text.lines line = [line] := Text.lines_of_not_mem absent empty
      have bare := Text.bareLine_of_not_mem absent
      rw [only] at closed
      obtain ⟨segments, division, -, same⟩ :=
        exists_of_dropEnding (bare ▸ closed line List.mem_cons_self)
      refine ⟨segments, division, ?_⟩
      intro found give passes place
      rw [only, same give passes, ← bare]
      simp [Text.beforeLine_zero]
  | closed line later absent ih =>
      have first : Text.lines (line ++ '\n' :: later) = (line ++ ['\n']) :: Text.lines later :=
        Text.lines_append_cons absent later
      have bare := Text.bareLine_append_lineFeed line
      rw [first] at closed
      obtain ⟨closedFirst, closedLater⟩ := List.forall_mem_cons.mp closed
      obtain ⟨segments, division, unopened, same⟩ := exists_of_dropEnding (bare ▸ closedFirst)
      obtain ⟨behind, divisionBehind, sameBehind⟩ := ih closedLater
      -- The blank of the line feed joins both divisions and gives nothing itself.
      refine ⟨_, division.append_line_feed divisionBehind unopened, ?_⟩
      intro found give passes place
      have reached : (place.after line).after ['\n'] = place.after (line ++ ['\n']) :=
        (place.after_append ..).symm
      have moved (index : Nat) :
          (place.after (line ++ ['\n'])).after (Text.beforeLine later index) =
            place.after (Text.beforeLine (line ++ '\n' :: later) (index + 1)) := by
        rw [← Place.after_append, Text.beforeLine_succ absent]
      rw [Place.layOut_append, List.filterMap_append, division.flatMap_text, Place.layOut,
        List.filterMap_cons_none (passes.blank ..), same give passes, Segment.text, reached,
        sameBehind give passes, first, List.zipIdx_cons', List.flatMap_cons, List.flatMap_map,
        ← bare]
      congr 1
      apply List.flatMap_congr
      rintro ⟨next, index⟩ -
      simp only [moved, Prod.map, id]

/-! ## Scanning the lines one after another -/

/-- A token apart from its place. -/
def Token.unplaced (token : Token) : TokenKind × String × Option Literal :=
  (token.kind, token.lexeme, token.literal)

/-- Tokens apart from their places and from the end of the file. -/
def Token.allUnplaced (tokens : List Token) : List (TokenKind × String × Option Literal) :=
  (tokens.filter (!·.isEndOfFile)).map unplaced

/-- The diagnostic as one of the named file. -/
def Diagnostic.named (file : String) (diagnostic : Diagnostic) : Diagnostic :=
  { diagnostic with position := { diagnostic.position with file := file } }

namespace PlacedSegment

/-- The token of a segment apart from its place, if it gives one. -/
def unplaced? (keywords : KeywordTable) (placed : PlacedSegment) :
    Option (TokenKind × String × Option Literal) :=
  (placed.token? keywords "").map Token.unplaced

theorem unplaced_token? (keywords : KeywordTable) (file : String) (placed : PlacedSegment) :
    (placed.token? keywords file).map Token.unplaced = placed.unplaced? keywords := by
  obtain ⟨segment, place⟩ := placed
  cases segment <;> rfl

theorem passesOver_unplaced? (keywords : KeywordTable) : PassesOver (unplaced? keywords) :=
  ⟨fun _ _ => rfl, fun _ _ => rfl⟩

theorem passesOver_diagnostic? (file : String) : PassesOver (diagnostic? file) :=
  ⟨fun _ _ => rfl, fun _ _ => rfl⟩

/-- Only the name of its file is another if a diagnostic is given in another file. -/
theorem diagnostic?_eq_map (file other : String) (placed : PlacedSegment) :
    placed.diagnostic? file = (placed.diagnostic? other).map (·.named file) := by
  obtain ⟨segment, place⟩ := placed
  cases segment <;> rfl

end PlacedSegment

theorem Place.filterMap_unplaced?_layOut (keywords : KeywordTable) (segments : List Segment)
    (place other : Place) :
    (place.layOut segments).filterMap (·.unplaced? keywords) =
      (other.layOut segments).filterMap (·.unplaced? keywords) := by
  induction segments generalizing place other with
  | nil => rfl
  | cons segment later ih =>
      have same : PlacedSegment.unplaced? keywords ⟨segment, place⟩ =
          PlacedSegment.unplaced? keywords ⟨segment, other⟩ := by
        cases segment <;> rfl
      rw [layOut, layOut, List.filterMap_cons, List.filterMap_cons, same, ih]

namespace Scan

variable {keywords : KeywordTable} {text : List Char}

theorem allUnplaced_ofSource (noEnd : ∀ word, keywords.find? word ≠ some .endOfFile)
    (file : String) {segments : List Segment} (division : Division text segments)
    (place : Place) :
    Token.allUnplaced (ofSource keywords file text).tokens =
      (place.layOut segments).filterMap (·.unplaced? keywords) := by
  rw [Token.allUnplaced, filter_tokens_ofSource noEnd file division, List.map_filterMap,
    Place.filterMap_unplaced?_layOut keywords segments place .start]
  simp only [PlacedSegment.unplaced_token?]

theorem line_eq_one_of_mem_diagnostics {file : String} (sameLine : '\n' ∉ text)
    {diagnostic : Diagnostic} (member : diagnostic ∈ (ofSource keywords file text).diagnostics) :
    diagnostic.line = 1 := by
  obtain ⟨before, later, rfl, -, line⟩ := exists_cut_of_mem_diagnostics member
  have absent : '\n' ∉ before := fun stands => sameLine (List.mem_append_left later stands)
  rw [line, Text.lineFeeds_eq_zero absent]

/-- The diagnostics of a line that stands behind other text. -/
theorem filterMap_diagnostic?_after (keywords : KeywordTable) (file other : String)
    (sameLine : '\n' ∉ text) (before : List Char) :
    ((Place.start.after before).layOut (Segment.split text)).filterMap (·.diagnostic? file) =
      (ofSource keywords other text).diagnostics.map fun diagnostic =>
        ⟨diagnostic.cause, ⟨Text.byteSize before + diagnostic.position.offset, file⟩,
          Text.lineFeeds before + 1⟩ := by
  have moved : Place.start.after before =
      Place.start.shift (Text.byteSize before) (Text.lineFeeds before) := rfl
  have renamed : (fun placed : PlacedSegment => placed.diagnostic? file) = fun placed =>
      (placed.diagnostic? other).map (·.named file) :=
    funext (PlacedSegment.diagnostic?_eq_map file other)
  rw [moved, filterMap_diagnostic?_shift, renamed, ← List.map_filterMap,
    ← diagnostics_ofSource (Segment.division_split text) keywords, List.map_map]
  apply List.map_congr_left
  intro diagnostic member
  have line := line_eq_one_of_mem_diagnostics sameLine member
  simp [Diagnostic.shift, Diagnostic.named, line, Nat.add_comm]

section LineByLine

variable (file other : String) (closed : ∀ line ∈ Text.lines text,
  ∀ diagnostic ∈ (ofSource keywords other (Text.bareLine line)).diagnostics,
    diagnostic.cause ≠ .unterminatedString)

include closed

/-- A text whose lines leave no string open, as the prompt reads them, has the tokens
of its lines. -/
theorem tokens_line_by_line (noEnd : ∀ word, keywords.find? word ≠ some .endOfFile) :
    Token.allUnplaced (ofSource keywords file text).tokens =
      (Text.lines text).flatMap fun line =>
        Token.allUnplaced (ofSource keywords other (Text.bareLine line)).tokens := by
  obtain ⟨segments, division, same⟩ := Division.exists_of_lines fun line member =>
    openString_not_mem (Segment.division_split _) (closed line member)
  rw [allUnplaced_ofSource noEnd file division .start,
    same _ (PlacedSegment.passesOver_unplaced? keywords)]
  -- Tokens apart from their places do not depend on the index of their line.
  conv => rhs; rw [← List.zipIdx_map_fst 0 (Text.lines text), List.flatMap_map]
  apply List.flatMap_congr
  rintro ⟨line, index⟩ -
  exact (allUnplaced_ofSource noEnd other (Segment.division_split _) _).symm

/-- It has the diagnostics of its lines, each of them on the line with its number and
as many bytes further on as there are before that line. -/
theorem diagnostics_line_by_line :
    (ofSource keywords file text).diagnostics =
      (Text.lines text).zipIdx.flatMap fun (line, index) =>
        (ofSource keywords other (Text.bareLine line)).diagnostics.map fun diagnostic =>
          ⟨diagnostic.cause,
            ⟨Text.byteSize (Text.beforeLine text index) + diagnostic.position.offset, file⟩,
            index + 1⟩ := by
  obtain ⟨segments, division, same⟩ := Division.exists_of_lines fun line member =>
    openString_not_mem (Segment.division_split _) (closed line member)
  rw [diagnostics_ofSource division, same _ (PlacedSegment.passesOver_diagnostic? file)]
  apply List.flatMap_congr
  rintro ⟨line, index⟩ member
  have found := List.mk_mem_zipIdx_iff_getElem?.mp member
  have sameLine := Text.lineFeed_not_mem_bareLine (List.mem_of_getElem? found)
  obtain ⟨within, -⟩ := List.getElem?_eq_some_iff.mp found
  have placed := filterMap_diagnostic?_after keywords file other sameLine
    (Text.beforeLine text index)
  rwa [Text.lineFeeds_beforeLine within] at placed

end LineByLine

end Scan

end LoxLexer
