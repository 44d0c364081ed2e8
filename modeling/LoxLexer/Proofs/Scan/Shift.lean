/-
# Scans do not depend on where the source begins

A source that stands behind other text gives the same tokens and diagnostics,
moved by the bytes and the lines of that text.
-/

import LoxLexer.Proofs.Scan.Findings

namespace LoxLexer

/-- The place that lies so many bytes and lines further on. -/
def Place.shift (bytes lines : Nat) (place : Place) : Place :=
  ⟨place.offset + bytes, place.line + lines⟩

/-- The token, moved by bytes and lines. -/
def Token.shift (bytes lines : Nat) (token : Token) : Token :=
  { token with
    line := token.line + lines
    span := { token.span with start := token.span.start + bytes, stop := token.span.stop + bytes } }

/-- The diagnostic, moved by bytes and lines. -/
def Diagnostic.shift (bytes lines : Nat) (diagnostic : Diagnostic) : Diagnostic :=
  { diagnostic with
    position := { diagnostic.position with offset := diagnostic.position.offset + bytes }
    line := diagnostic.line + lines }

/-- The placed segment, moved by bytes and lines. -/
def PlacedSegment.shift (bytes lines : Nat) (placed : PlacedSegment) : PlacedSegment :=
  { placed with place := placed.place.shift bytes lines }

namespace Place

theorem after_shift (bytes lines : Nat) (place : Place) (text : List Char) :
    (place.shift bytes lines).after text = (place.after text).shift bytes lines := by
  simp only [after, shift, mk.injEq]
  omega

theorem layOut_shift (bytes lines : Nat) (place : Place) (segments : List Segment) :
    (place.shift bytes lines).layOut segments =
      (place.layOut segments).map (·.shift bytes lines) := by
  induction segments generalizing place with
  | nil => rfl
  | cons segment later ih =>
      rw [layOut, after_shift, ih]
      rfl

end Place

namespace PlacedSegment

theorem stop_shift (bytes lines : Nat) (placed : PlacedSegment) :
    (placed.shift bytes lines).stop = placed.stop.shift bytes lines :=
  Place.after_shift ..

theorem token_shift (bytes lines : Nat) (placed : PlacedSegment) (file : String)
    (kind : TokenKind) (literal : Option Literal) :
    (placed.shift bytes lines).token file kind literal =
      (placed.token file kind literal).shift bytes lines := by
  simp only [token, span, stop_shift]
  rfl

theorem token?_shift (bytes lines : Nat) (keywords : KeywordTable) (file : String)
    (placed : PlacedSegment) :
    (placed.shift bytes lines).token? keywords file =
      (placed.token? keywords file).map (·.shift bytes lines) := by
  have same : (placed.shift bytes lines).segment = placed.segment := rfl
  cases form : placed.segment <;>
    simp [token?, finding?, same, form, Finding.token?, token_shift]

theorem diagnostic?_shift (bytes lines : Nat) (file : String) (placed : PlacedSegment) :
    (placed.shift bytes lines).diagnostic? file =
      (placed.diagnostic? file).map (·.shift bytes lines) := by
  have same : (placed.shift bytes lines).segment = placed.segment := rfl
  cases form : placed.segment <;>
    simp [diagnostic?, finding?, same, form, Finding.diagnostic?, stop_shift] <;> rfl

end PlacedSegment

namespace Scan

theorem filterMap_token?_shift (bytes lines : Nat) (keywords : KeywordTable) (file : String)
    (segments : List Segment) (place : Place) :
    ((place.shift bytes lines).layOut segments).filterMap (·.token? keywords file) =
      ((place.layOut segments).filterMap (·.token? keywords file)).map (·.shift bytes lines) := by
  rw [Place.layOut_shift, List.filterMap_map, List.map_filterMap]
  congr 1
  funext placed
  exact placed.token?_shift bytes lines keywords file

theorem filterMap_diagnostic?_shift (bytes lines : Nat) (file : String)
    (segments : List Segment) (place : Place) :
    ((place.shift bytes lines).layOut segments).filterMap (·.diagnostic? file) =
      ((place.layOut segments).filterMap (·.diagnostic? file)).map (·.shift bytes lines) := by
  rw [Place.layOut_shift, List.filterMap_map, List.map_filterMap]
  congr 1
  funext placed
  exact placed.diagnostic?_shift bytes lines file

end Scan

end LoxLexer
