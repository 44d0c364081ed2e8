/-
# What an outlet has room for

A procedure that stops when it is refused gives an outlet the bytes from the front for which
there is room. If these are all of its bytes, it comes to its own end.
-/

import LoxLexer.Proofs.Interaction.Actions

namespace LoxLexer

namespace Outlet

variable {α : Type}

/-! ## Bytes one after the other -/

theorem fitting_eq_take (outlet : Outlet) (bytes : List UInt8) :
    outlet.fitting bytes = bytes.take (outlet.room.getD bytes.length) := by
  obtain ⟨_ | room, reason⟩ := outlet
  · exact List.take_length.symm
  · rfl

theorem fitting_eq_self_iff {outlet : Outlet} {bytes : List UInt8} :
    outlet.fitting bytes = bytes ↔ outlet.refuses bytes = false := by
  refine ⟨fun whole => ?_, fitting_of_not_refuses⟩
  obtain ⟨_ | room, reason⟩ := outlet
  · rfl
  · have length : min room bytes.length = bytes.length :=
      List.length_take.symm.trans (congrArg List.length whole)
    exact decide_eq_false (by omega)

theorem refuses_append (outlet : Outlet) (front later : List UInt8) :
    outlet.refuses (front ++ later) =
      (outlet.refuses front || (outlet.afterTaking front.length).refuses later) := by
  obtain ⟨_ | room, reason⟩ := outlet
  · rfl
  · simp only [refuses, afterTaking, Option.map_some, List.length_append, ← Bool.decide_or,
      decide_eq_decide]
    omega

/-- What is refused takes up all the room that there is. -/
theorem fitting_append_of_refuses {outlet : Outlet} {front : List UInt8}
    (full : outlet.refuses front = true) (later : List UInt8) :
    outlet.fitting (front ++ later) = outlet.fitting front := by
  obtain ⟨_ | room, reason⟩ := outlet
  · contradiction
  · exact List.take_append_of_le_length (Nat.le_of_lt (of_decide_eq_true full))

theorem fitting_append_of_not_refuses {outlet : Outlet} {front : List UInt8}
    (fits : outlet.refuses front = false) (later : List UInt8) :
    outlet.fitting (front ++ later) =
      front ++ (outlet.afterTaking front.length).fitting later := by
  obtain ⟨_ | room, reason⟩ := outlet
  · rfl
  · exact List.take_append.trans (congrArg (· ++ _) (fitting_of_not_refuses fits))

/-! ## Actions at an outlet with little room -/

open Procedure

variable (result : Except Stop α)

theorem accepted_perform_ofActions (actions : List Action) (outlet : Outlet) :
    (outlet.perform (ofActions result actions)).accepted =
      outlet.fitting (actions.flatMap Action.bytes) := by
  induction actions generalizing outlet with
  | nil => exact (fitting_nil outlet).symm
  | cons action later ih =>
      rw [perform_ofActions_cons, List.flatMap_cons]
      cases full : outlet.refuses action.bytes with
      | true => exact (fitting_append_of_refuses full _).symm
      | false => exact (congrArg _ (ih _)).trans (fitting_append_of_not_refuses full _).symm

theorem result_perform_ofActions (actions : List Action) (outlet : Outlet) :
    (outlet.perform (ofActions result actions)).result =
      if outlet.refuses (actions.flatMap Action.bytes) then .error (.unwritable outlet.reason)
      else result := by
  induction actions generalizing outlet with
  | nil => exact (if_neg (ne_true_of_eq_false (refuses_nil outlet))).symm
  | cons action later ih =>
      rw [perform_ofActions_cons, List.flatMap_cons, refuses_append]
      cases outlet.refuses action.bytes with
      | true => rfl
      | false => exact ih _

/-! ## What any outlet takes -/

/-- The outlet takes the bytes as far as it has room. If it takes them all, the given end is
reached, and otherwise it says why it takes no more. -/
structure Takes (outlet : Outlet) (performance : Performance (Except Stop α))
    (bytes : List UInt8) (ends : Except Stop α) : Prop where
  accepted : performance.accepted = bytes.take (outlet.room.getD bytes.length)
  whole : performance.accepted = bytes → performance.result = ends
  cut : performance.accepted ≠ bytes → performance.result = .error (.unwritable outlet.reason)

theorem Takes.result_eq_or {outlet : Outlet} {performance : Performance (Except Stop α)}
    {bytes : List UInt8} {ends : Except Stop α} (takes : outlet.Takes performance bytes ends) :
    performance.result = ends ∨ performance.result = .error (.unwritable outlet.reason) := by
  by_cases whole : performance.accepted = bytes
  · exact .inl (takes.whole whole)
  · exact .inr (takes.cut whole)

/-- An outlet adds no reason to stop but that it refuses. -/
theorem Takes.result_ne {outlet : Outlet} {performance : Performance (Except Stop α)}
    {bytes : List UInt8} {ends : Except Stop α} (takes : outlet.Takes performance bytes ends)
    {stop : Stop} (other : stop ≠ .unwritable outlet.reason) (unstopped : ends ≠ .error stop) :
    performance.result ≠ .error stop := by
  rcases takes.result_eq_or with ended | refused
  · rwa [ended]
  · rw [refused]
    exact fun same => other (Except.error.inj same).symm

/-- Every outlet takes what the actions write. -/
theorem takes_perform (outlet : Outlet) (actions : List Action) :
    outlet.Takes (outlet.perform (ofActions result actions)) (actions.flatMap Action.bytes)
      result := by
  have accepted := accepted_perform_ofActions result actions outlet
  have ends := result_perform_ofActions result actions outlet
  constructor
  case accepted => exact accepted.trans (fitting_eq_take outlet _)
  case whole =>
      intro whole
      rw [ends, fitting_eq_self_iff.mp (accepted.symm.trans whole), if_neg Bool.false_ne_true]
  case cut =>
      intro cut
      have full := eq_true_of_ne_false (mt fitting_eq_self_iff.mpr (accepted ▸ cut))
      rw [ends, if_pos full]

end Outlet

/-! ## Lines -/

/-- The bytes of several lines. -/
def lineBytes (lines : List String) : List UInt8 :=
  Text.Utf8.encode (lines.flatMap fun line => line.toList ++ ['\n'])

theorem bytes_writeLines (lines : List String) :
    (lines.map fun line => Action.write (line ++ "\n")).flatMap Action.bytes = lineBytes lines := by
  simp [lineBytes, Action.bytes, Text.Utf8.encode, List.flatMap_map, List.flatMap_assoc]

theorem encode_line_ne_nil (line : String) : Text.Utf8.encode (line ++ "\n").toList ≠ [] := by
  rw [String.toList_append, Text.Utf8.encode_append]
  exact List.append_ne_nil_of_right_ne_nil _ (by decide)

/-- A line has at least the byte of its line feed. -/
theorem lineBytes_ne_nil {lines : List String} (some : lines ≠ []) : lineBytes lines ≠ [] := by
  obtain ⟨line, later, rfl⟩ := List.exists_cons_of_ne_nil some
  rw [← bytes_writeLines]
  exact List.append_ne_nil_of_left_ne_nil (encode_line_ne_nil line) _

theorem Outlet.accepted_ofLines {α : Type} (lines : List String) (result : Except Stop α) :
    (unlimited.perform (Procedure.ofLines lines result)).accepted = lineBytes lines := by
  rw [Procedure.ofLines, perform_unlimited, bytes_writeLines]

theorem Outlet.takes_ofLines {α : Type} (outlet : Outlet) (lines : List String)
    (result : Except Stop α) :
    outlet.Takes (outlet.perform (Procedure.ofLines lines result)) (lineBytes lines) result := by
  rw [← bytes_writeLines]
  exact takes_perform result outlet _

end LoxLexer
