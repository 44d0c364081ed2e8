/-
# Tokens do not depend on their layout

The tokens of a source can be written anew with other separators between them,
as long as tokens that did not touch do not touch now. A scan of the new text
finds the same tokens and nothing else. Comments, stray characters and an open
string leave no trace, since none of them is written again.
-/

import LoxLexer.Proofs.Scan.Findings
import Mathlib.Data.List.Chain

namespace LoxLexer

/-! ## Writing tokens anew -/

/-- A way of writing tokens: with separators before the first token and behind
every token, and with some between tokens that do not touch in their spans. -/
structure Layout (tokens : List Token) where
  lead : List Char
  entries : List (Token × List Char)
  tokens_eq : entries.map Prod.fst = tokens
  separates_lead : ∀ character ∈ lead, isSeparator character = true
  separates : ∀ entry ∈ entries, ∀ character ∈ entry.2, isSeparator character = true
  /-- Only tokens that touch in their spans may touch again. -/
  keepsApart : entries.IsChain fun entry next =>
    entry.1.span.stop ≠ next.1.span.start → entry.2 ≠ []

namespace Layout

/-- The lexemes of entries, each with what stands behind it. -/
def textOf (entries : List (Token × List Char)) : List Char :=
  entries.flatMap fun entry => entry.1.lexeme.toList ++ entry.2

/-- The text that is written. -/
def text {tokens : List Token} (layout : Layout tokens) : List Char :=
  layout.lead ++ textOf layout.entries

/-- The tokens of entries that are written from a place of the named source on. -/
def tokensAt (file : String) : Place → List (Token × List Char) → List Token
  | _, [] => []
  | place, (token, gap) :: later =>
    let stop := place.after token.lexeme.toList
    { token with line := place.line, span := ⟨file, place.offset, stop.offset⟩ } ::
      tokensAt file (stop.after gap) later

/-- The tokens where they are written. -/
def written {tokens : List Token} (layout : Layout tokens) (file : String) : List Token :=
  tokensAt file (Place.start.after layout.lead) layout.entries

end Layout

/-! ## Texts that go on alike -/

/-- The new text goes on like the old one until it ends or a separator comes. -/
inductive GoesOnLike : List Char → List Char → Prop
  | ended (old : List Char) : GoesOnLike old []
  | separated (old : List Char) {separator : Char} (separates : isSeparator separator = true)
      (later : List Char) : GoesOnLike old (separator :: later)
  | same (character : Char) {old new : List Char} (alike : GoesOnLike old new) :
      GoesOnLike (character :: old) (character :: new)

namespace GoesOnLike

theorem append {old new : List Char} (alike : GoesOnLike old new) (front : List Char) :
    GoesOnLike (front ++ old) (front ++ new) := by
  induction front with
  | nil => exact alike
  | cons character rest ih => exact .same character ih

/-- The new text begins with nothing, with a separator or as the old one does. -/
theorem head? {old new : List Char} (alike : GoesOnLike old new) {next : Char}
    (front : next ∈ new.head?) : isSeparator next = true ∨ next ∈ old.head? := by
  cases alike with
  | ended => contradiction
  | separated _ separates =>
      cases front
      exact .inl separates
  | same => exact .inr front

/-- A run without separators that ends before the old text ends before the new one. -/
theorem endsRun {old new : List Char} (alike : GoesOnLike old new) {allowed : Char → Bool}
    (joins : ∀ character, allowed character = true → isSeparator character = false)
    (ends : EndsRun allowed old) : EndsRun allowed new := by
  intro next front
  rcases alike.head? front with separates | front
  · cases inside : allowed next with
    | false => rfl
    | true => exact absurd separates (by simp [joins next inside])
  · exact ends next front

end GoesOnLike

namespace PlacedSegment

variable {keywords : KeywordTable} {file : String} {segment : Segment} {place : Place}
  {token : Token}

/-- A token keeps its rules when what follows it goes on alike. -/
theorem endsBefore_of_goesOnLike (gives : token? keywords file ⟨segment, place⟩ = some token)
    {old new : List Char} (ends : segment.EndsBefore old) (alike : GoesOnLike old new) :
    segment.EndsBefore new := by
  have digitJoins : ∀ character, isDigit character = true → isSeparator character = false :=
    fun _ digit => (unmarked_of_isWordCharacter (isWordCharacter_of_isDigit digit)).1
  cases segment with
  | symbol mark =>
      obtain ⟨longest, slashes⟩ := ends
      constructor
      · intro next front grows
        rcases alike.head? front with separates | front
        · obtain ⟨rfl, -⟩ := Symbol.growsBy_iff.mp grows
          simp [isSeparator] at separates
        · exact longest next front grows
      · intro slash second
        rcases alike.head? second with separates | second
        · simp [isSeparator] at separates
        · exact slashes slash second
  | number numeral =>
      obtain ⟨ends, point⟩ := ends
      refine ⟨alike.endsRun digitJoins ends, ?_⟩
      intro noFraction dot
      cases alike with
      | ended => simp at dot
      | separated _ separates =>
          cases dot
          simp [isSeparator] at separates
      | same character alike => exact alike.endsRun digitJoins (point noFraction dot)
  | word letters =>
      exact alike.endsRun (fun _ inside => (unmarked_of_isWordCharacter inside).1) ends
  | string => trivial
  | blank | comment | stray | openString => cases gives

/-- A token ends where its segment does. -/
theorem stop_of_token? (gives : token? keywords file ⟨segment, place⟩ = some token) :
    token.span.stop = (place.after segment.text).offset := by
  cases segment <;> cases gives <;> rfl

/-- A token has the text of its segment. -/
theorem lexeme_of_token? (gives : token? keywords file ⟨segment, place⟩ = some token) :
    token.lexeme.toList = segment.text := by
  cases segment <;> cases gives <;> exact String.toList_ofList

/-- A token that is placed elsewhere keeps its kind, its lexeme and its literal. -/
theorem token?_moved (gives : token? keywords file ⟨segment, place⟩ = some token)
    (newFile : String) (newPlace : Place) :
    token? keywords newFile ⟨segment, newPlace⟩ =
      some { token with
        line := newPlace.line
        span := ⟨newFile, newPlace.offset, (newPlace.after segment.text).offset⟩ } := by
  cases segment <;> cases gives <;> rfl

/-- What is a token is not wrong anywhere. -/
theorem diagnostic?_of_token? (gives : token? keywords file ⟨segment, place⟩ = some token)
    (newFile : String) (newPlace : Place) : diagnostic? newFile ⟨segment, newPlace⟩ = none := by
  cases segment <;> cases gives <;> rfl

/-- No token is the end of the file if no word is. -/
theorem kind_of_token? (noEnd : ∀ word, keywords.find? word ≠ some .endOfFile)
    (gives : token? keywords file ⟨segment, place⟩ = some token) :
    token.kind ≠ .endOfFile := by
  cases segment <;> cases gives
  case word letters =>
      exact fun ended => noEnd _ (KeywordTable.kindOf_eq_endOfFile_iff.mp ended)
  all_goals simp [PlacedSegment.token]

end PlacedSegment

/-! ## The written text is scanned -/

/-- Separators are cut off before a text that is already cut. -/
theorem Division.separators_append {gap : List Char}
    (separates : ∀ character ∈ gap, isSeparator character = true) {later : List Char}
    {segments : List Segment} (division : Division later segments) :
    Division (gap ++ later) (gap.map .blank ++ segments) := by
  induction gap with
  | nil => exact division
  | cons character rest ih =>
      obtain ⟨separator, separates⟩ := List.forall_mem_cons.mp separates
      exact .cons (.blank character) separator trivial (ih separates)

/-- Separators give nothing and only move what stands behind them. -/
theorem Place.filterMap_layOut_separators {found : Type} (give : PlacedSegment → Option found)
    (silent : ∀ character place, give ⟨.blank character, place⟩ = none) (gap : List Char)
    (segments : List Segment) (place : Place) :
    (place.layOut (gap.map .blank ++ segments)).filterMap give =
      ((place.after gap).layOut segments).filterMap give := by
  induction gap generalizing place with
  | nil => rfl
  | cons character rest ih =>
      rw [List.map_cons, List.cons_append, layOut, List.filterMap_cons_none (silent ..), ih]
      rw [← after_append]
      rfl

theorem Place.offset_lt_after (place : Place) {text : List Char} (nonempty : text ≠ []) :
    place.offset < (place.after text).offset := by
  obtain ⟨character, rest, rfl⟩ := List.exists_cons_of_ne_nil nonempty
  have positive := character.utf8Size_pos
  simp only [after, Text.byteSize_cons]
  omega

theorem Place.offset_le_of_mem_layOut {place : Place} {segments : List Segment}
    {placed : PlacedSegment} (member : placed ∈ place.layOut segments) :
    place.offset ≤ placed.place.offset := by
  induction segments generalizing place with
  | nil => contradiction
  | cons segment later ih =>
      rcases List.mem_cons.mp member with rfl | member
      · exact Nat.le_refl _
      · exact Nat.le_trans (Nat.le_add_right ..) (ih member)

/-- Behind a segment no token begins where the segment does. -/
theorem Segment.start_ne_of_mem {segment : Segment} (wellFormed : segment.WellFormed)
    {keywords : KeywordTable} {file : String} {place : Place} {later : List Segment}
    {token : Token}
    (member : token ∈
      ((place.after segment.text).layOut later).filterMap (·.token? keywords file)) :
    token.span.start ≠ place.offset := by
  obtain ⟨placed, stands, gives⟩ := List.mem_filterMap.mp member
  have moved := place.offset_lt_after (text_ne_nil_of_wellFormed wellFormed)
  have reached := Place.offset_le_of_mem_layOut stands
  rw [(PlacedSegment.place_of_token? gives).1]
  omega

/-- The entries from a place of a source on are written as a text that is divided
into them and their separators. The text goes on like the source if the first
entry begins there. -/
structure Rewritten (keywords : KeywordTable) (source : List Char) (place : Place)
    (entries : List (Token × List Char)) (segments : List Segment) : Prop where
  division : Division (Layout.textOf entries) segments
  tokens : ∀ (file : String) (place : Place),
    (place.layOut segments).filterMap (·.token? keywords file) =
      Layout.tokensAt file place entries
  diagnostics : ∀ (file : String) (place : Place),
    (place.layOut segments).filterMap (·.diagnostic? file) = []
  alike : (∀ entry ∈ entries.head?, entry.1.span.start = place.offset) →
    GoesOnLike source (Layout.textOf entries)

namespace Rewritten

variable {keywords : KeywordTable} {file : String} {source later : List Char} {place : Place}
  {segment : Segment} {entries : List (Token × List Char)} {segments : List Segment}

theorem nil (keywords : KeywordTable) (source : List Char) (place : Place) :
    Rewritten keywords source place [] [] where
  division := .nil
  tokens _ _ := rfl
  diagnostics _ _ := rfl
  alike _ := .ended source

/-- A segment that is no token is left out: a token behind it begins later. -/
theorem skip (rewritten : Rewritten keywords later (place.after segment.text) entries segments)
    (behind : ∀ entry ∈ entries.head?, entry.1.span.start ≠ place.offset) :
    Rewritten keywords (segment.text ++ later) place entries segments where
  division := rewritten.division
  tokens := rewritten.tokens
  diagnostics := rewritten.diagnostics
  alike touches := by
    cases entries with
    | nil => exact .ended _
    | cons entry others => exact absurd (touches entry rfl) (behind entry rfl)

/-- A token is written with its separators before the entries behind it. -/
theorem token {token : Token} {gap : List Char}
    (rewritten : Rewritten keywords later (place.after segment.text) entries segments)
    (gives : PlacedSegment.token? keywords file ⟨segment, place⟩ = some token)
    (wellFormed : segment.WellFormed) (ends : segment.EndsBefore later)
    (separates : ∀ character ∈ gap, isSeparator character = true)
    (keepsApart : ∀ entry ∈ entries.head?, token.span.stop ≠ entry.1.span.start → gap ≠ []) :
    Rewritten keywords (segment.text ++ later) place ((token, gap) :: entries)
      (segment :: (gap.map .blank ++ segments)) := by
  have lexeme := PlacedSegment.lexeme_of_token? gives
  have whole : Layout.textOf ((token, gap) :: entries) =
      segment.text ++ (gap ++ Layout.textOf entries) := by
    simp [Layout.textOf, lexeme]
  have alike : GoesOnLike later (gap ++ Layout.textOf entries) := by
    cases gap with
    | nil =>
        apply rewritten.alike
        intro entry first
        have touches : token.span.stop = entry.1.span.start :=
          Decidable.byContradiction fun apart => keepsApart entry first apart rfl
        rw [← touches]
        exact PlacedSegment.stop_of_token? gives
    | cons separator rest => exact .separated _ (separates _ List.mem_cons_self) _
  constructor
  case division =>
      rw [whole]
      exact .cons _ wellFormed (PlacedSegment.endsBefore_of_goesOnLike gives ends alike)
        (rewritten.division.separators_append separates)
  case tokens =>
      intro newFile newPlace
      rw [Place.layOut, List.filterMap_cons_some (PlacedSegment.token?_moved gives ..)]
      rw [Place.filterMap_layOut_separators _ (fun _ _ => rfl), rewritten.tokens]
      rw [Layout.tokensAt, lexeme]
  case diagnostics =>
      intro newFile newPlace
      rw [Place.layOut, List.filterMap_cons_none (PlacedSegment.diagnostic?_of_token? gives ..)]
      rw [Place.filterMap_layOut_separators _ (fun _ _ => rfl)]
      exact rewritten.diagnostics ..
  case alike =>
      intro _
      rw [whole]
      exact alike.append _

end Rewritten

/-- Tokens of a source can be written with other separators between them. -/
theorem exists_rewritten {keywords : KeywordTable} {file : String} {source : List Char}
    {segments : List Segment} (division : Division source segments) {place : Place}
    {entries : List (Token × List Char)}
    (tokens_eq : entries.map Prod.fst =
      (place.layOut segments).filterMap (·.token? keywords file))
    (separates : ∀ entry ∈ entries, ∀ character ∈ entry.2, isSeparator character = true)
    (keepsApart : entries.IsChain fun entry next =>
      entry.1.span.stop ≠ next.1.span.start → entry.2 ≠ []) :
    ∃ written, Rewritten keywords source place entries written := by
  induction division generalizing place entries with
  | nil =>
      obtain rfl := List.map_eq_nil_iff.mp tokens_eq
      exact ⟨[], .nil ..⟩
  | @cons segment later segments wellFormed ends _ ih =>
      rw [Place.layOut] at tokens_eq
      cases gives : PlacedSegment.token? keywords file ⟨segment, place⟩ with
      | none =>
          rw [List.filterMap_cons_none gives] at tokens_eq
          obtain ⟨written, rewritten⟩ := ih tokens_eq separates keepsApart
          refine ⟨written, rewritten.skip ?_⟩
          intro entry first
          have member := List.mem_map_of_mem (f := Prod.fst) (List.mem_of_mem_head? first)
          rw [tokens_eq] at member
          exact Segment.start_ne_of_mem wellFormed member
      | some token =>
          rw [List.filterMap_cons_some gives] at tokens_eq
          obtain ⟨⟨_, gap⟩, others, rfl, rfl, others_eq⟩ := List.map_eq_cons_iff.mp tokens_eq
          obtain ⟨separatesGap, separates⟩ := List.forall_mem_cons.mp separates
          obtain ⟨keepsApartGap, keepsApart⟩ := List.isChain_cons.mp keepsApart
          obtain ⟨written, rewritten⟩ := ih others_eq separates keepsApart
          exact ⟨_, rewritten.token gives wellFormed ends separatesGap keepsApartGap⟩

namespace Scan

variable {keywords : KeywordTable}

/-- If no word is the end of the file, the other tokens are those of the segments. -/
theorem filter_tokens_ofSource (noEnd : ∀ word, keywords.find? word ≠ some .endOfFile)
    (file : String) {source : List Char} {segments : List Segment}
    (division : Division source segments) :
    (ofSource keywords file source).tokens.filter (!·.isEndOfFile) =
      (Place.start.layOut segments).filterMap (·.token? keywords file) := by
  rw [tokens_ofSource division, List.filter_append, List.filter_eq_self.mpr]
  · exact List.append_nil _
  · intro token member
    obtain ⟨placed, -, gives⟩ := List.mem_filterMap.mp member
    simpa [Token.isEndOfFile] using PlacedSegment.kind_of_token? noEnd gives

/-- Tokens that are written anew are found where they are written, and nothing is
wrong there, whatever else stood in their source. -/
theorem scan_layout (noEnd : ∀ word, keywords.find? word ≠ some .endOfFile)
    (file newFile : String) (source : List Char)
    (layout : Layout ((ofSource keywords file source).tokens.filter (!·.isEndOfFile))) :
    (ofSource keywords newFile layout.text).tokens.filter (!·.isEndOfFile) =
        layout.written newFile ∧
      (ofSource keywords newFile layout.text).diagnostics = [] := by
  obtain ⟨segments, division⟩ := Division.exists_division source
  have tokens_eq := layout.tokens_eq.trans (filter_tokens_ofSource noEnd file division)
  obtain ⟨written, rewritten⟩ :=
    exists_rewritten division tokens_eq layout.separates layout.keepsApart
  have newDivision : Division layout.text _ :=
    rewritten.division.separators_append layout.separates_lead
  constructor
  · rw [filter_tokens_ofSource noEnd newFile newDivision]
    rw [Place.filterMap_layOut_separators _ (fun _ _ => rfl)]
    exact rewritten.tokens ..
  · rw [diagnostics_ofSource newDivision]
    rw [Place.filterMap_layOut_separators _ (fun _ _ => rfl)]
    exact rewritten.diagnostics ..

/-- A whole number, a point behind it and a number on the next line, apart from
what gives no token. -/
def pointBeforeDigit : List Char := ['1', '.', '/', '/', '2', '"', '\n', '@', '5', '"', '=']

/-- The first two tokens stay together and the others are moved. -/
def pointBeforeDigitLayout :
    Layout ((ofSource .builtin "old" pointBeforeDigit).tokens.filter (!·.isEndOfFile)) where
  lead := ['\n', ' ']
  entries :=
    [(⟨.number, "1", some (.number (Number.Numeral.denotation ⟨['1'], []⟩)), 1, ⟨"old", 0, 1⟩⟩, []),
     (⟨.symbol .dot, ".", none, 1, ⟨"old", 1, 2⟩⟩, ['\t']),
     (⟨.number, "5", some (.number (Number.Numeral.denotation ⟨['5'], []⟩)), 2, ⟨"old", 8, 9⟩⟩, [])]
  tokens_eq := by decide +kernel
  separates_lead := by simp [isSeparator]
  separates := by simp [isSeparator]
  keepsApart := by simp

theorem scan_layout_pointBeforeDigit :
    (∀ word, KeywordTable.builtin.find? word ≠ some .endOfFile) ∧
      (ofSource .builtin "new" pointBeforeDigitLayout.text).tokens.filter (!·.isEndOfFile) =
        pointBeforeDigitLayout.written "new" ∧
      (ofSource .builtin "new" pointBeforeDigitLayout.text).diagnostics = [] :=
  ⟨KeywordTable.find?_builtin_ne_endOfFile,
    scan_layout KeywordTable.find?_builtin_ne_endOfFile "old" "new" _ pointBeforeDigitLayout⟩

end Scan

end LoxLexer
