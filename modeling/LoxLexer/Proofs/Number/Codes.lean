/-
# The values of codes

A code is a number of steps in a rank. The last number of steps in one rank is the
first in the next, where the step is twice as large. So from one code to the next the
value grows by the step of the lower code, values ascend with their codes, and every
other value is at least that step away from the upper one of the two.
-/

import LoxLexer.Number.Binary64
import Mathlib.Algebra.Order.Field.Power
import Mathlib.Algebra.Order.Field.Rat
import Mathlib.Tactic.Linarith
import Mathlib.Tactic.NormNum
import Mathlib.Tactic.Positivity
import Mathlib.Tactic.Ring

namespace LoxLexer.Number

/-- The step of a code, which is the distance of its value from the next one. -/
def codeStep (code : Nat) : Rat := 2 ^ stepExponent code

theorem codeValue_eq_mul (code : Nat) : codeValue code = stepCount code * codeStep code := rfl

theorem codeStep_pos (code : Nat) : 0 < codeStep code := zpow_pos (by norm_num) _

/-! ## Ranks and counts -/

theorem stepRank_add {rank count : Nat} (fits : count < 2 * fractionCodes)
    (normal : rank = 0 ∨ fractionCodes ≤ count) :
    stepRank (rank * fractionCodes + count) = rank := by
  unfold stepRank fractionCodes at *
  omega

theorem codeStep_add {rank count : Nat} (fits : count < 2 * fractionCodes)
    (normal : rank = 0 ∨ fractionCodes ≤ count) :
    codeStep (rank * fractionCodes + count) = 2 ^ (rank + subnormalExponent) := by
  rw [codeStep, stepExponent, stepRank_add fits normal]

/-- The code before one that is not the first of its rank has the step of the rank. -/
theorem codeStep_of_succ_eq_add {rank count last : Nat}
    (follows : last + 1 = rank * fractionCodes + count) (fits : count ≤ 2 * fractionCodes)
    (more : rank = 0 ∨ fractionCodes < count) : codeStep last = 2 ^ (rank + subnormalExponent) := by
  have reached : rank * fractionCodes ≤ last := by
    rcases more with rfl | more <;> omega
  obtain ⟨fewer, rfl⟩ := Nat.exists_eq_add_of_le reached
  exact codeStep_add (by omega) (by omega)

theorem le_codeStep_add {rank count : Nat} (normal : rank = 0 ∨ fractionCodes ≤ count) :
    2 ^ (rank + subnormalExponent) ≤ codeStep (rank * fractionCodes + count) := by
  apply zpow_le_zpow_right₀ one_le_two
  unfold stepExponent stepRank fractionCodes at *
  omega

/-- A rank and a count of steps in it make a code. The first count that does not fit
into a rank makes the first code of the next one. -/
theorem codeValue_add {rank count : Nat} (fits : count ≤ 2 * fractionCodes)
    (normal : rank = 0 ∨ fractionCodes ≤ count) :
    codeValue (rank * fractionCodes + count) = count * 2 ^ (rank + subnormalExponent) := by
  rcases fits.lt_or_eq with fits | rfl
  · rw [codeValue_eq_mul, codeStep_add fits normal, stepCount, stepRank_add fits normal,
      Nat.add_sub_cancel_left]
  · have regrouped : rank * fractionCodes + 2 * fractionCodes =
        (rank + 1) * fractionCodes + fractionCodes := by ring
    have small : fractionCodes < 2 * fractionCodes := by decide
    have normal : rank + 1 = 0 ∨ fractionCodes ≤ fractionCodes := .inr (le_refl _)
    have twice : ((rank + 1 : Nat) : Int) + subnormalExponent = rank + subnormalExponent + 1 := by
      push_cast
      ring
    rw [regrouped, codeValue_eq_mul, codeStep_add small normal, stepCount,
      stepRank_add small normal, Nat.add_sub_cancel_left, twice, zpow_add_one₀ two_ne_zero]
    push_cast
    ring

theorem rank_mul_add_stepCount (code : Nat) :
    stepRank code * fractionCodes + stepCount code = code := by
  unfold stepCount stepRank fractionCodes
  omega

theorem stepCount_lt (code : Nat) : stepCount code < 2 * fractionCodes := by
  unfold stepCount stepRank fractionCodes
  omega

/-- Only in the lowest rank are there fewer steps than codes in a field. -/
theorem stepRank_eq_zero_or (code : Nat) : stepRank code = 0 ∨ fractionCodes ≤ stepCount code := by
  unfold stepCount stepRank fractionCodes
  omega

theorem stepRank_mono {code other : Nat} (ascends : code ≤ other) :
    stepRank code ≤ stepRank other :=
  Nat.sub_le_sub_right (Nat.div_le_div_right ascends) 1

theorem codeStep_mono {code other : Nat} (ascends : code ≤ other) :
    codeStep code ≤ codeStep other := by
  apply zpow_le_zpow_right₀ one_le_two
  have ranks := stepRank_mono ascends
  unfold stepExponent
  omega

/-! ## Values ascend -/

/-- The next value is one step above. -/
theorem codeValue_succ (code : Nat) : codeValue (code + 1) = codeValue code + codeStep code := by
  have fits := stepCount_lt code
  have normal := stepRank_eq_zero_or code
  have next := codeValue_add (Nat.add_one_le_of_lt fits)
    (normal.imp_right fun enough => enough.trans (Nat.le_succ _))
  rw [← Nat.add_assoc, rank_mul_add_stepCount] at next
  rw [next, codeValue_eq_mul, codeStep, stepExponent]
  push_cast
  ring

theorem codeValue_strictMono : StrictMono codeValue := by
  apply strictMono_nat_of_lt_succ
  intro code
  rw [codeValue_succ]
  exact lt_add_of_pos_right _ (codeStep_pos code)

theorem codeValue_zero : codeValue 0 = 0 := by
  rw [codeValue_eq_mul, stepCount]
  simp

theorem codeValue_nonneg (code : Nat) : 0 ≤ codeValue code :=
  codeValue_zero ▸ codeValue_strictMono.monotone (Nat.zero_le code)

theorem codeValue_pos {code : Nat} (positive : 0 < code) : 0 < codeValue code :=
  codeValue_zero ▸ codeValue_strictMono positive

theorem codeValue_eq_zero_iff {code : Nat} : codeValue code = 0 ↔ code = 0 := by
  rw [← codeValue_zero, codeValue_strictMono.injective.eq_iff]

/-- A step is not larger than a value that has any. -/
theorem codeStep_le_codeValue {code : Nat} (positive : 0 < code) :
    codeStep code ≤ codeValue code := by
  have counted : 1 ≤ stepCount code := by
    have whole := rank_mul_add_stepCount code
    rcases stepRank_eq_zero_or code with lowest | enough
    · rw [lowest] at whole
      omega
    · exact le_trans (by decide) enough
  rw [codeValue_eq_mul]
  exact le_mul_of_one_le_left (codeStep_pos code).le (by exact_mod_cast counted)

/-- A value has at most `2 ^ 53` of the steps below it. -/
theorem codeValue_succ_le (code : Nat) : codeValue (code + 1) ≤ 2 ^ 53 * codeStep code := by
  have fits : (stepCount code : Rat) + 1 ≤ 2 ^ 53 := by
    have bound := stepCount_lt code
    unfold fractionCodes at bound
    exact_mod_cast bound
  have positive := codeStep_pos code
  calc codeValue (code + 1) = (stepCount code + 1) * codeStep code := by
        rw [codeValue_succ, codeValue_eq_mul]
        ring
    _ ≤ 2 ^ 53 * codeStep code := by gcongr

end LoxLexer.Number
