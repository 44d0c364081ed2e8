/-
# Interactions

An interaction is what is done with the outside, step by step. It offers texts, tells
events and leaves diagnostics behind. Whether a text was taken is told to the
interaction, and it goes on with this answer, whatever the answer is.

A procedure is an interaction that may stop before it has a value. Its parts are done
in order, and a part that stops ends the whole, unless the stop is looked at as a value.
-/

import LoxLexer.Diagnostic.Basic

namespace LoxLexer

/-- What is done with the outside until there is a value. -/
inductive Interaction (α : Type)
  | finish (value : α)
  /-- Offers a text and goes on with the answer: an error has the reason for which the
  text was refused. -/
  | offer (text : String) (next : Except String Unit → Interaction α)
  | tell (event : Event) (next : Interaction α)
  /-- Leaves these diagnostics behind in place of earlier ones. -/
  | leave (diagnostics : Diagnostics) (next : Interaction α)

namespace Interaction

variable {α β : Type}

/-- Goes on with the value of an interaction. -/
def andThen : Interaction α → (α → Interaction β) → Interaction β
  | finish value, next => next value
  | offer text answered, next => offer text fun answer => (answered answer).andThen next
  | tell event later, next => tell event (later.andThen next)
  | leave diagnostics later, next => leave diagnostics (later.andThen next)

instance : Monad Interaction where
  pure := finish
  bind := andThen

/-- What a place does with the parts of an interaction. -/
structure Venue (m : Type → Type) where
  /-- Takes a text, or answers with the reason for which it is refused. -/
  offer : String → m (Except String Unit)
  tell : Event → m Unit
  leave : Diagnostics → m Unit

/-- Runs an interaction at a place. -/
def runAt {m : Type → Type} [Monad m] (venue : Venue m) : Interaction α → m α
  | finish value => pure value
  | offer text next => do
    let answer ← venue.offer text
    (next answer).runAt venue
  | tell event next => do
    venue.tell event
    next.runAt venue
  | leave diagnostics next => do
    venue.leave diagnostics
    next.runAt venue

end Interaction

/-- Why a procedure did not come to its regular end. -/
inductive Stop
  /-- A diagnostic ended it. -/
  | failed (diagnostic : Diagnostic)
  /-- A text was refused. -/
  | unwritable (reason : String)
  /-- A text was to be cut inside one of its characters. -/
  | insideCharacter
  deriving DecidableEq

/-- The diagnostic of a stop: a refused text is a failed transfer. A cut inside
a character has none. -/
def Stop.diagnostic? : Stop → Option Diagnostic
  | failed diagnostic => some diagnostic
  | unwritable reason => some (.placeless (.transfer reason))
  | insideCharacter => none

/-- An interaction that may stop before it has a value. -/
abbrev Procedure := ExceptT Stop Interaction

namespace Procedure

/-- Ends with a value or stops. -/
def ofResult {α : Type} (result : Except Stop α) : Procedure α := ExceptT.mk (.finish result)

/-- Stops. -/
def stop {α : Type} (reason : Stop) : Procedure α := ofResult (.error reason)

/-- Writes a text, and stops if it is refused. -/
def write (text : String) : Procedure Unit :=
  ExceptT.mk (.offer text fun answer => .finish (answer.mapError .unwritable))

/-- Writes a text and a line feed. -/
def writeLine (text : String) : Procedure Unit := write (text ++ "\n")

/-- Logs an event. -/
def log (event : Event) : Procedure Unit := ExceptT.mk (.tell event (.finish (.ok ())))

/-- Leaves diagnostics behind. -/
def retain (diagnostics : Diagnostics) : Procedure Unit :=
  ExceptT.mk (.leave diagnostics (.finish (.ok ())))

/-- Does something for each member of a list, in order. -/
def forEach {α : Type} (members : List α) (procedure : α → Procedure Unit) : Procedure Unit :=
  match members with
  | [] => pure ()
  | member :: later => do
    procedure member
    forEach later procedure

end Procedure

end LoxLexer
