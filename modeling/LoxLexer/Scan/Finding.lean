/-
# Places and what a scan finds there

The place of a segment is what the text before it makes of the beginning of the
source: its size in bytes is the offset, and each line feed in it leads to the
next line.

Each segment of a source is either passed over or gives one finding: a token, a
comment or a diagnostic. A stray character is wrong where it stands. An open
string is wrong where its closing mark is missing, at the end of the source.
-/

import LoxLexer.Segment.Basic
import LoxLexer.Text.Line
import LoxLexer.Token.Basic

namespace LoxLexer

/-- A byte offset in a source and the line it lies on. -/
structure Place where
  offset : Nat
  /-- The line of the place, counted from one. -/
  line : Nat
  deriving DecidableEq

namespace Place

/-- The beginning of a source. -/
def start : Place := ⟨0, 1⟩

/-- The place that is reached over a text. -/
def after (place : Place) (text : List Char) : Place :=
  ⟨place.offset + Text.byteSize text, place.line + Text.lineFeeds text⟩

@[simp] theorem after_nil (place : Place) : place.after [] = place := rfl

/-- Going over two texts is going over one and then over the other. -/
theorem after_append (place : Place) (first second : List Char) :
    place.after (first ++ second) = (place.after first).after second := by
  simp [after, Nat.add_assoc]

theorem start_after (text : List Char) :
    start.after text = ⟨Text.byteSize text, 1 + Text.lineFeeds text⟩ := by
  simp [start, after]

end Place

/-- A segment and the place at which it begins. -/
structure PlacedSegment where
  segment : Segment
  place : Place
  deriving DecidableEq

/-- The place after a segment. -/
def PlacedSegment.stop (placed : PlacedSegment) : Place := placed.place.after placed.segment.text

/-- Places segments one after another, the first one at the given place. -/
def Place.layOut : Place → List Segment → List PlacedSegment
  | _, [] => []
  | place, segment :: later => ⟨segment, place⟩ :: layOut (place.after segment.text) later

/-! ## Findings -/

/-- What a scan finds at one place. -/
inductive Finding
  | token (token : Token)
  /-- A comment, with its slashes, and the line it stands on. -/
  | comment (line : Nat) (text : String)
  | diagnostic (diagnostic : Diagnostic)
  deriving DecidableEq

namespace Finding

/-- The token that was found, if it is one. -/
def token? : Finding → Option Token
  | token found => some found
  | _ => none

/-- The diagnostic that was found, if it is one. -/
def diagnostic? : Finding → Option Diagnostic
  | diagnostic found => some found
  | _ => none

/-- The event that tells of a finding. -/
def event : Finding → Event
  | token found => .token found.kind found.lexeme found.line
  | comment line text => .skippedComment line text
  | diagnostic found => .reported found.position.file found

end Finding

namespace PlacedSegment

/-- The span of a placed segment in the named source. -/
def span (placed : PlacedSegment) (file : String) : Span :=
  ⟨file, placed.place.offset, placed.stop.offset⟩

/-- The token of the given kind and value whose lexeme is the segment. -/
def token (placed : PlacedSegment) (file : String) (kind : TokenKind)
    (literal : Option Literal) : Token where
  kind := kind
  lexeme := String.ofList placed.segment.text
  literal := literal
  line := placed.place.line
  span := placed.span file

/-- What is found in a placed segment of the named source. -/
def finding? (keywords : KeywordTable) (file : String) (placed : PlacedSegment) : Option Finding :=
  match placed.segment with
  | .blank _ => none
  | .comment remark =>
    some (.comment placed.place.line (String.ofList ('/' :: '/' :: remark)))
  | .symbol mark => some (.token (placed.token file (.symbol mark) none))
  | .string content =>
    some (.token (placed.token file .string (some (.string (String.ofList content)))))
  | .number numeral =>
    some (.token (placed.token file .number (some (.number numeral.denotation))))
  | .word letters =>
    some (.token (placed.token file (keywords.kindOf (String.ofList letters)) none))
  | .stray character =>
    some (.diagnostic
      ⟨.unexpectedCharacter character, ⟨placed.place.offset, file⟩, placed.place.line⟩)
  | .openString _ =>
    some (.diagnostic ⟨.unterminatedString, ⟨placed.stop.offset, file⟩, placed.stop.line⟩)

end PlacedSegment

end LoxLexer
