/-
# What comes of an interaction

An interaction at an outlet is performed part by part, and what is done after a part finds
the outlet with the room that is left. So the performance of two interactions, one after
the other, is made of their performances.
-/

import LoxLexer.Interaction.Outlet

namespace LoxLexer

namespace Interaction

variable {α β γ : Type}

theorem andThen_finish (interaction : Interaction α) :
    interaction.andThen finish = interaction := by
  induction interaction with
  | finish value => rfl
  | offer text next ih => exact congrArg (offer text) (funext ih)
  | tell event next ih => exact congrArg (tell event) ih
  | leave diagnostics next ih => exact congrArg (leave diagnostics) ih

theorem andThen_assoc (interaction : Interaction α) (next : α → Interaction β)
    (last : β → Interaction γ) :
    (interaction.andThen next).andThen last =
      interaction.andThen fun value => (next value).andThen last := by
  induction interaction with
  | finish value => rfl
  | offer text answered ih => exact congrArg (offer text) (funext ih)
  | tell event later ih => exact congrArg (tell event) ih
  | leave diagnostics later ih => exact congrArg (leave diagnostics) ih

instance : LawfulMonad Interaction :=
  LawfulMonad.mk' _ andThen_finish (fun _ _ => rfl) andThen_assoc

/-- Interactions that are had one after the other are run one after the other. -/
theorem runAt_bind {m : Type → Type} [Monad m] [LawfulMonad m] (venue : Venue m)
    (first : Interaction α) (next : α → Interaction β) :
    (first >>= next).runAt venue = first.runAt venue >>= fun value => (next value).runAt venue := by
  induction first with
  | finish value => exact (pure_bind value fun value => (next value).runAt venue).symm
  | offer text answered ih => exact (bind_congr ih).trans (bind_assoc ..).symm
  | tell event later ih => exact (bind_congr fun _ => ih).trans (bind_assoc ..).symm
  | leave diagnostics later ih => exact (bind_congr fun _ => ih).trans (bind_assoc ..).symm

end Interaction

namespace Outlet

variable {α β : Type}

@[simp] theorem refuses_nil (outlet : Outlet) : outlet.refuses [] = false := by
  obtain ⟨_ | _, _⟩ := outlet <;> rfl

@[simp] theorem fitting_nil (outlet : Outlet) : outlet.fitting [] = [] := by
  obtain ⟨_ | _, _⟩ := outlet
  · rfl
  · exact List.take_nil

@[simp] theorem afterTaking_zero (outlet : Outlet) : outlet.afterTaking 0 = outlet := by
  obtain ⟨_ | _, _⟩ := outlet <;> rfl

theorem afterTaking_afterTaking (outlet : Outlet) (first second : Nat) :
    (outlet.afterTaking first).afterTaking second = outlet.afterTaking (first + second) := by
  obtain ⟨_ | room, reason⟩ := outlet
  · rfl
  · simp [afterTaking, Nat.sub_sub]

theorem refuses_unlimited (bytes : List UInt8) : unlimited.refuses bytes = false := rfl

theorem afterTaking_unlimited (count : Nat) : unlimited.afterTaking count = unlimited := rfl

/-- Nothing more is taken from a text that is not refused than all of it. -/
theorem fitting_of_not_refuses {outlet : Outlet} {bytes : List UInt8}
    (fits : outlet.refuses bytes = false) : outlet.fitting bytes = bytes := by
  obtain ⟨_ | room, reason⟩ := outlet
  · rfl
  · exact List.take_of_length_le (Nat.le_of_not_lt (of_decide_eq_false fits))

instance : LawfulMonad Happening := by
  refine LawfulMonad.mk' _ ?_ ?_ ?_
  · intro α happening
    have idle (performance : Performance α) :
        (⟨performance.accepted ++ [], performance.events ++ [], none.or performance.retained,
          performance.result⟩ : Performance α) = performance := by simp
    exact funext fun outlet => idle (happening outlet)
  · intro α β value next
    funext outlet
    simp [bind, pure]
  · intro α β γ first second third
    funext outlet
    simp [bind, afterTaking_afterTaking, Option.or_assoc]

@[simp] theorem perform_pure (outlet : Outlet) (value : α) :
    outlet.perform (pure value : Interaction α) = ⟨[], [], none, value⟩ := rfl

/-- What comes of two interactions is what comes of the first one and then, with the room
that is left, of the second one. -/
theorem perform_bind (outlet : Outlet) (first : Interaction α) (next : α → Interaction β) :
    outlet.perform (first >>= next) =
      let one := outlet.perform first
      let other := (outlet.afterTaking one.accepted.length).perform (next one.result)
      { accepted := one.accepted ++ other.accepted
        events := one.events ++ other.events
        retained := other.retained.or one.retained
        result := other.result } :=
  congrFun (Interaction.runAt_bind venue first next) outlet

end Outlet

end LoxLexer
