/-
# Procedures that stop at the first refusal

Many a procedure does a list of actions, which no answer changes: it goes on while its texts
are taken, and the first text that is refused ends it. At an outlet that refuses nothing it
does all of its actions. At an outlet with little room it writes the bytes from the front for
which there is room. If these are all, nothing else changes, and otherwise it ends at the byte
that is refused.

Nothing of this holds of a procedure that looks at an answer and goes on, so that a procedure
is of this kind has to be shown part by part.
-/

import LoxLexer.Proofs.Interaction.Perform

namespace LoxLexer

/-- One thing that a procedure does to the outside. -/
inductive Action
  | write (text : String)
  | log (event : Event)
  | retain (diagnostics : Diagnostics)
  deriving DecidableEq

namespace Action

/-- The bytes that an action writes. -/
def bytes : Action → List UInt8
  | write text => Text.Utf8.encode text.toList
  | log _ | retain _ => []

/-- The event that an action logs. -/
def event? : Action → Option Event
  | log event => some event
  | write _ | retain _ => none

/-- The diagnostics that an action leaves behind. -/
def retained? : Action → Option Diagnostics
  | retain diagnostics => some diagnostics
  | write _ | log _ => none

/-- Does one thing. -/
def procedure : Action → Procedure Unit
  | write text => .write text
  | log event => .log event
  | retain diagnostics => .retain diagnostics

end Action

namespace Procedure

variable {α β : Type}

/-- The procedure that does the given actions in order, if none is refused, and then ends
with a value or stops. -/
def ofActions (result : Except Stop α) : List Action → Procedure α
  | [] => ofResult result
  | action :: later => do
    action.procedure
    ofActions result later

/-- The procedure that does the given actions and ends with a value. -/
def done (actions : List Action) (value : α) : Procedure α := ofActions (.ok value) actions

/-- The procedure that writes the given lines and then ends with a value or stops. -/
def ofLines (lines : List String) (result : Except Stop α) : Procedure α :=
  ofActions result (lines.map fun line => .write (line ++ "\n"))

/-- The procedure does a list of actions whatever the answers are, up to the first refusal. -/
def StopsWhenRefused (procedure : Procedure α) : Prop :=
  ∃ actions result, procedure = ofActions result actions

/-! ## One procedure after another -/

theorem write_eq_done (text : String) : write text = done [.write text] () :=
  (bind_pure (write text)).symm

theorem log_eq_done (event : Event) : log event = done [.log event] () := rfl

theorem writeLine_eq_done (text : String) : writeLine text = done [.write (text ++ "\n")] () :=
  write_eq_done (text ++ "\n")

/-- What ends with a value is followed by what comes next. -/
theorem done_bind (actions : List Action) (value : α) (next : α → Procedure β) :
    done actions value >>= next = done actions () >>= fun _ => next value := by
  induction actions with
  | nil => rfl
  | cons action later ih =>
      rw [done, ofActions, bind_assoc]
      exact (bind_congr fun _ => ih).trans (bind_assoc ..).symm

theorem done_cons_bind (action : Action) (later : List Action) (value : α)
    (next : α → Procedure β) :
    done (action :: later) value >>= next =
      action.procedure >>= fun _ => done later value >>= next :=
  bind_assoc ..

/-- The actions of two procedures are done in order. -/
theorem done_bind_of_eq {actions later : List Action} {value : α} {result : Except Stop β}
    {next : α → Procedure β} (goesOn : next value = ofActions result later) :
    done actions value >>= next = ofActions result (actions ++ later) := by
  induction actions with
  | nil => exact goesOn
  | cons action front ih =>
      rw [done_cons_bind, ih]
      rfl

theorem done_append (front later : List Action) (next : Procedure β) :
    (done (front ++ later) () >>= fun _ => next) =
      done front () >>= fun _ => done later () >>= fun _ => next := by
  induction front with
  | nil => rfl
  | cons action front ih => rw [List.cons_append, done_cons_bind, done_cons_bind, ih]

/-- A value that is computed at the end adds no action. -/
theorem done_bind_pure (actions : List Action) (value : α) (compute : α → β) :
    (done actions value >>= fun known => pure (compute known)) = done actions (compute value) := by
  induction actions with
  | nil => rfl
  | cons action later ih =>
      rw [done_cons_bind, ih]
      rfl

theorem forEach_eq_done {members : List α} {procedure : α → Procedure Unit}
    {actions : α → List Action}
    (ends : ∀ member ∈ members, procedure member = done (actions member) ()) :
    forEach members procedure = done (members.flatMap actions) () := by
  induction members with
  | nil => rfl
  | cons member later ih =>
      obtain ⟨ends, laterEnds⟩ := List.forall_mem_cons.mp ends
      rw [forEach, ends]
      exact done_bind_of_eq (ih laterEnds)

end Procedure

namespace Outlet

open Procedure

variable {α : Type} (result : Except Stop α)

/-- One action: an outlet takes what fits of it, and the action stops if this is not all. -/
theorem perform_action (outlet : Outlet) (action : Action) :
    outlet.perform action.procedure =
      { accepted := outlet.fitting action.bytes
        events := action.event?.toList
        retained := action.retained?
        result := if outlet.refuses action.bytes then .error (.unwritable outlet.reason)
          else .ok () } := by
  cases action with
  | write text =>
      have answered : outlet.perform (Action.write text).procedure =
          { accepted := outlet.fitting (Action.write text).bytes ++ []
            events := []
            retained := none
            result := (if outlet.refuses (Action.write text).bytes then .error outlet.reason
              else .ok () : Except String Unit).mapError .unwritable } := rfl
      rw [answered, List.append_nil]
      cases outlet.refuses (Action.write text).bytes <;> rfl
  | log event =>
      simp only [Action.bytes, fitting_nil, refuses_nil, Bool.false_eq_true, if_false]
      rfl
  | retain diagnostics =>
      simp only [Action.bytes, fitting_nil, refuses_nil, Bool.false_eq_true, if_false]
      rfl

/-- One action at any outlet: it is refused, or it is done and the rest follows. -/
theorem perform_ofActions_cons (outlet : Outlet) (action : Action) (later : List Action) :
    outlet.perform (ofActions result (action :: later)) =
      if outlet.refuses action.bytes then
        ⟨outlet.fitting action.bytes, [], none, .error (.unwritable outlet.reason)⟩
      else
        let rest := (outlet.afterTaking action.bytes.length).perform (ofActions result later)
        { accepted := action.bytes ++ rest.accepted
          events := action.event?.toList ++ rest.events
          retained := rest.retained.or action.retained?
          result := rest.result } := by
  have parts := perform_bind outlet action.procedure.run
    (ExceptT.bindCont fun _ => ofActions result later)
  refine parts.trans ?_
  rw [ExceptT.run, perform_action]
  by_cases full : outlet.refuses action.bytes = true
  · cases action with
    | write text =>
        simp only [if_pos full]
        exact congrArg (Performance.mk · [] none _) (List.append_nil _)
    | log event => simp [Action.bytes] at full
    | retain diagnostics => simp [Action.bytes] at full
  · simp only [if_neg full]
    rw [fitting_of_not_refuses (eq_false_of_ne_true full)]
    rfl

/-- An outlet that refuses nothing takes everything and changes no end. -/
theorem perform_unlimited (actions : List Action) :
    unlimited.perform (ofActions result actions) =
      { accepted := actions.flatMap Action.bytes
        events := actions.filterMap Action.event?
        retained := (actions.filterMap Action.retained?).getLast?
        result := result } := by
  induction actions with
  | nil => rfl
  | cons action later ih =>
      rw [perform_ofActions_cons, refuses_unlimited, afterTaking_unlimited, ih]
      cases action <;>
        simp [Action.event?, Action.retained?, List.filterMap_cons, List.getLast?_cons]

/-- What is done first and what it goes on with are performed one after the other. -/
theorem perform_unlimited_bind {β : Type} (actions : List Action) (value : β)
    (next : β → Procedure α) :
    unlimited.perform (done actions value >>= next : Procedure α) =
      let first := unlimited.perform (done actions value)
      let rest := unlimited.perform (next value)
      { accepted := first.accepted ++ rest.accepted
        events := first.events ++ rest.events
        retained := rest.retained.or first.retained
        result := rest.result } := by
  have parts := perform_bind unlimited (done actions value).run (ExceptT.bindCont next)
  refine parts.trans ?_
  simp only [ExceptT.run, afterTaking_unlimited, done, perform_unlimited]
  rfl

/-- Any outlet does what the one does that refuses nothing, or it refuses. -/
theorem perform_eq_unlimited_or (actions : List Action) (outlet : Outlet) :
    outlet.perform (ofActions result actions) = unlimited.perform (ofActions result actions) ∨
      (outlet.perform (ofActions result actions)).result =
        .error (.unwritable outlet.reason) := by
  induction actions generalizing outlet with
  | nil => exact .inl rfl
  | cons action later ih =>
      rw [perform_ofActions_cons, perform_ofActions_cons, refuses_unlimited, afterTaking_unlimited]
      split
      · exact .inr rfl
      · rcases ih (outlet.afterTaking action.bytes.length) with same | refused
        · exact .inl (by rw [same]; rfl)
        · exact .inr refused

/-- What comes to a regular end is the same at any outlet. -/
theorem perform_eq_unlimited {procedure : Procedure α} (stops : procedure.StopsWhenRefused)
    {outlet : Outlet} {value : α} (ends : (outlet.perform procedure).result = .ok value) :
    outlet.perform procedure = unlimited.perform procedure := by
  obtain ⟨actions, result, rfl⟩ := stops
  rcases perform_eq_unlimited_or result actions outlet with same | refused
  · exact same
  · rw [refused] at ends
    contradiction

/-! ## What is left behind -/

/-- What is left behind at any outlet is left behind by one of the actions. -/
theorem exists_of_retained_perform {actions : List Action} {outlet : Outlet}
    {kept : Diagnostics}
    (left : (outlet.perform (ofActions result actions)).retained = some kept) :
    ∃ action ∈ actions, action.retained? = some kept := by
  induction actions generalizing outlet with
  | nil => contradiction
  | cons action later ih =>
      rw [perform_ofActions_cons] at left
      split at left
      · contradiction
      · rcases Option.or_eq_some_iff.mp left with behind | ⟨-, here⟩
        · obtain ⟨other, member, keeps⟩ := ih behind
          exact ⟨other, List.mem_cons_of_mem _ member, keeps⟩
        · exact ⟨action, List.mem_cons_self, here⟩

/-- Where nothing is left behind, nothing is left behind at any outlet. -/
theorem retained_perform_eq_none {actions : List Action}
    (silent : ∀ action ∈ actions, action.retained? = none) (outlet : Outlet) :
    (outlet.perform (ofActions result actions)).retained = none := by
  rw [Option.eq_none_iff_forall_ne_some]
  intro kept left
  obtain ⟨action, member, keeps⟩ := exists_of_retained_perform result left
  rw [silent action member] at keeps
  contradiction

/-- What is done before the first byte is written is done at any outlet. -/
theorem retained_perform_append {front : List Action}
    (unwritten : ∀ action ∈ front, action.bytes = []) (later : List Action) (outlet : Outlet) :
    (outlet.perform (ofActions result (front ++ later))).retained =
      (outlet.perform (ofActions result later)).retained.or
        (front.filterMap Action.retained?).getLast? := by
  induction front with
  | nil => simp
  | cons action front ih =>
      obtain ⟨none, unwritten⟩ := List.forall_mem_cons.mp unwritten
      rw [List.cons_append, perform_ofActions_cons, none]
      cases kept : action.retained? <;> simp [ih unwritten, kept, List.getLast?_cons]

end Outlet

end LoxLexer
