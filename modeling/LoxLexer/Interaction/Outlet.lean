/-
# Outlets

An outlet takes texts as bytes. It may have room for so many bytes and no more. Of a
text that does not fit it takes what fits and refuses the text. It then has no room
left, and what is offered later is refused as well. A text that fits exactly is taken
in whole, and an empty text always fits.
-/

import LoxLexer.Interaction.Basic
import LoxLexer.Text.Utf8

namespace LoxLexer

/-- Where texts go to. -/
structure Outlet where
  /-- The number of bytes that it has room for; `none` for any number. -/
  room : Option Nat
  /-- What it says when it refuses. -/
  reason : String

/-- What came of an interaction at an outlet. -/
structure Performance (α : Type) where
  accepted : List UInt8
  events : List Event
  /-- The diagnostics that were left behind last, if any were. -/
  retained : Option Diagnostics
  result : α

namespace Outlet

/-- The outlet that refuses nothing. -/
def unlimited : Outlet := ⟨none, ""⟩

/-- The outlet after it took so many bytes. -/
def afterTaking (outlet : Outlet) (count : Nat) : Outlet :=
  { outlet with room := outlet.room.map (· - count) }

/-- Are these more bytes than the outlet has room for? -/
def refuses (outlet : Outlet) (bytes : List UInt8) : Bool :=
  match outlet.room with
  | none => false
  | some room => room < bytes.length

/-- The bytes from the front for which the outlet has room. -/
def fitting (outlet : Outlet) (bytes : List UInt8) : List UInt8 :=
  match outlet.room with
  | none => bytes
  | some room => bytes.take room

/-- What happens at an outlet, given the outlet as it is before. -/
def Happening (α : Type) : Type := Outlet → Performance α

/-- One happening after the other: the second one finds the outlet with the room that
the first one has left. -/
instance : Monad Happening where
  pure value _ := ⟨[], [], none, value⟩
  bind first next outlet :=
    let one := first outlet
    let other := next one.result (outlet.afterTaking one.accepted.length)
    { accepted := one.accepted ++ other.accepted
      events := one.events ++ other.events
      retained := other.retained.or one.retained
      result := other.result }

/-- An outlet takes what fits of a text that it is offered. -/
def venue : Interaction.Venue Happening where
  offer text outlet :=
    let bytes := Text.Utf8.encode text.toList
    { accepted := outlet.fitting bytes
      events := []
      retained := none
      result := if outlet.refuses bytes then .error outlet.reason else .ok () }
  tell event _ := ⟨[], [event], none, ()⟩
  leave diagnostics _ := ⟨[], [], some diagnostics, ()⟩

/-- Performs an interaction at an outlet. -/
def perform {α : Type} (outlet : Outlet) (interaction : Interaction α) : Performance α :=
  interaction.runAt venue outlet

end Outlet

end LoxLexer
