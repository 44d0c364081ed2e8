/-
# Reading rounds to the nearest code

A value is rounded to a code that has no nearer one; of two that are equally near it is
the even one. At most one code is like that, and the code that is computed is. The codes
ascend past the finite ones here, as if exponents had no bound, and everything that is
rounded to a code from infinity on is infinite.
-/

import LoxLexer.Proofs.Number.Codes
import Mathlib.Data.Rat.Floor

namespace LoxLexer.Number

/-- The value is rounded to the code. -/
structure RoundsTo (value : Rat) (code : Nat) : Prop where
  /-- No code is nearer. -/
  nearest : ∀ other, |codeValue code - value| ≤ |codeValue other - value|
  /-- A code that has another one as near is even. -/
  even : ∀ other, other ≠ code → |codeValue other - value| = |codeValue code - value| →
    code % 2 = 0

/-- The value of a code is rounded to the code. -/
theorem roundsTo_codeValue (code : Nat) : RoundsTo (codeValue code) code where
  nearest other := by simp
  even other different same := by
    rw [sub_self, abs_zero, abs_eq_zero, sub_eq_zero] at same
    exact absurd (codeValue_strictMono.injective same) different

namespace RoundsTo

variable {value inner : Rat} {code other : Nat}

/-- No value is rounded to two codes. -/
theorem unique (rounds : RoundsTo value code) (again : RoundsTo value other) : code = other := by
  by_contra different
  wlog ascends : code < other generalizing code other
  · exact this again rounds (Ne.symm different)
      (lt_of_le_of_ne (not_lt.mp ascends) (Ne.symm different))
  have same : |codeValue other - value| = |codeValue code - value| :=
    le_antisymm (again.nearest code) (rounds.nearest other)
  have even := rounds.even other (Ne.symm different) same
  have evenOther := again.even code different same.symm
  -- Between two even codes there is one that is nearer to the middle of their values.
  have apart : code + 1 < other := by omega
  have lower := codeValue_strictMono (Nat.lt_succ_self code)
  have upper := codeValue_strictMono apart
  have middle : codeValue other - value = -(codeValue code - value) :=
    (abs_eq_abs.mp same).resolve_left (by linarith)
  have nearer : |codeValue (code + 1) - value| < |codeValue code - value| := by
    rw [abs_of_nonpos (by linarith : codeValue code - value ≤ 0), abs_lt]
    constructor <;> linarith
  exact absurd (rounds.nearest (code + 1)) (not_le.mpr nearer)

/-- What lies between a value and the code that it is rounded to is rounded alike. -/
theorem between (rounds : RoundsTo value code)
    (lies : value ≤ inner ∧ inner ≤ codeValue code ∨ codeValue code ≤ inner ∧ inner ≤ value) :
    RoundsTo inner code := by
  have split : |codeValue code - value| = |codeValue code - inner| + |inner - value| := by
    rcases lies with ⟨above, below⟩ | ⟨above, below⟩
    · rw [abs_of_nonneg (by linarith), abs_of_nonneg (by linarith), abs_of_nonneg (by linarith)]
      ring
    · rw [abs_of_nonpos (by linarith), abs_of_nonpos (by linarith), abs_of_nonpos (by linarith)]
      ring
  have detour (other : Nat) := abs_sub_le (codeValue other) inner value
  constructor
  case nearest =>
    intro other
    linarith [rounds.nearest other, detour other]
  case even =>
    intro other different same
    apply rounds.even other different
    apply le_antisymm _ (rounds.nearest other)
    rw [split, ← same]
    exact detour other

/-- A value is not rounded past a code. -/
theorem le_of_le_codeValue (rounds : RoundsTo value code) (below : value ≤ codeValue other) :
    code ≤ other := by
  by_contra beyond
  have ascends := codeValue_strictMono (not_le.mp beyond)
  have near := rounds.nearest other
  rw [abs_of_nonneg (by linarith), abs_of_nonneg (by linarith)] at near
  linarith

end RoundsTo

/-- What is not past the middle of a gap is nearer to this side of it than to anything
beyond, and as near only in the middle. -/
theorem abs_sub_le_of_le_middle {here there value gap : Rat} (positive : 0 < gap)
    (apart : here + gap ≤ there) (near : value - here ≤ gap / 2) :
    |here - value| ≤ |there - value| ∧
      (|there - value| = |here - value| → value - here = gap / 2) := by
  rw [abs_of_nonneg (by linarith : 0 ≤ there - value)]
  refine ⟨abs_le.mpr ⟨by linarith, by linarith⟩, fun same => ?_⟩
  rcases abs_cases (here - value) with ⟨distance, -⟩ | ⟨distance, -⟩ <;>
    rw [distance] at same <;> linarith

/-- A value is rounded to a code if it is within half of the steps above and below, and
on an end of this interval only if the code is even. -/
theorem roundsTo_of_within {value : Rat} {code : Nat}
    (above : value - codeValue code ≤ codeStep code / 2)
    (below : ∀ lower, lower + 1 = code → codeValue code - value ≤ codeStep lower / 2)
    (even : value - codeValue code = codeStep code / 2 ∨
      (∃ lower, lower + 1 = code ∧ codeValue code - value = codeStep lower / 2) →
        code % 2 = 0) : RoundsTo value code := by
  have far {other : Nat} (different : other ≠ code) :
      |codeValue code - value| ≤ |codeValue other - value| ∧
        (|codeValue other - value| = |codeValue code - value| → code % 2 = 0) := by
    rcases different.lt_or_gt with descends | ascends
    · obtain ⟨lower, rfl⟩ : ∃ lower, lower + 1 = code :=
        ⟨code - 1, Nat.succ_pred_eq_of_pos (Nat.zero_lt_of_lt descends)⟩
      have apart : codeValue other ≤ codeValue lower :=
        codeValue_strictMono.monotone (Nat.le_of_lt_succ descends)
      -- The gap below is one above when everything is taken negative.
      have mirrored : -codeValue (lower + 1) + codeStep lower ≤ -codeValue other := by
        linarith [codeValue_succ lower]
      have half : -value - -codeValue (lower + 1) ≤ codeStep lower / 2 := by
        linarith [below lower rfl]
      obtain ⟨nearer, middle⟩ := abs_sub_le_of_le_middle (codeStep_pos lower) mirrored half
      rw [neg_sub_neg, neg_sub_neg, abs_sub_comm value, abs_sub_comm value] at nearer middle
      refine ⟨nearer, fun same => even (.inr ⟨lower, rfl, ?_⟩)⟩
      linarith [middle same]
    · have apart : codeValue code + codeStep code ≤ codeValue other :=
        codeValue_succ code ▸ codeValue_strictMono.monotone (Nat.succ_le_of_lt ascends)
      obtain ⟨nearer, middle⟩ := abs_sub_le_of_le_middle (codeStep_pos code) apart above
      exact ⟨nearer, fun same => even (.inl (middle same))⟩
  constructor
  case nearest =>
    intro other
    rcases eq_or_ne other code with rfl | different
    · exact le_refl _
    · exact (far different).1
  case even => exact fun other different => (far different).2

/-! ## The nearest integer -/

/-- The nearest integer is at most one half away, and on a tie it is even. -/
theorem roundHalfEven_spec (value : Rat) :
    |(roundHalfEven value : Rat) - value| ≤ 1 / 2 ∧
      (|(roundHalfEven value : Rat) - value| = 1 / 2 → roundHalfEven value % 2 = 0) := by
  have lower := Rat.floor_le value
  have upper := Rat.lt_floor_add_one value
  push_cast at upper
  have half : mkRat 1 2 = 1 / 2 := by norm_num
  unfold roundHalfEven
  simp only [half]
  split_ifs with low high even
  · rw [abs_of_nonpos (by linarith)]
    exact ⟨by linarith, fun tie => absurd tie (by linarith)⟩
  · push_cast
    rw [abs_of_nonneg (by linarith)]
    exact ⟨by linarith, fun tie => absurd tie (by linarith)⟩
  · rw [abs_of_nonpos (by linarith)]
    exact ⟨by linarith, fun _ => even⟩
  · push_cast
    rw [abs_of_nonneg (by linarith)]
    exact ⟨by linarith, fun _ => by omega⟩

/-- Rounding does not pass an integer. -/
theorem le_roundHalfEven {value : Rat} {bound : Int} (above : (bound : Rat) ≤ value) :
    bound ≤ roundHalfEven value := by
  obtain ⟨near, -⟩ := abs_le.mp (roundHalfEven_spec value).1
  by_contra passed
  have passed : (roundHalfEven value : Rat) ≤ bound - 1 := by
    exact_mod_cast Int.le_sub_one_of_lt (not_le.mp passed)
  linarith

theorem roundHalfEven_le {value : Rat} {bound : Int} (below : value ≤ bound) :
    roundHalfEven value ≤ bound := by
  obtain ⟨-, near⟩ := abs_le.mp (roundHalfEven_spec value).1
  by_contra passed
  have passed : (bound : Rat) + 1 ≤ roundHalfEven value := by
    exact_mod_cast Int.add_one_le_of_lt (not_le.mp passed)
  linarith

/-! ## The finest step -/

/-- A positive number is about the power of two that the binary logarithms of its
numerator and its denominator give. -/
theorem log2_spec {value : Rat} (positive : 0 < value) :
    (2 : Rat) ^ ((value.num.natAbs.log2 : Int) - value.den.log2 - 1) ≤ value ∧
      value < 2 ^ ((value.num.natAbs.log2 : Int) - value.den.log2 + 1) := by
  have numerator : value.num.natAbs ≠ 0 := Int.natAbs_ne_zero.mpr (Rat.num_pos.mpr positive).ne'
  have quotient : value = (value.num.natAbs : Rat) / value.den := by
    conv_lhs => rw [← Rat.num_div_den value]
    rw [← Int.natAbs_of_nonneg (Rat.num_pos.mpr positive).le]
    rfl
  have numLower : (2 : Rat) ^ value.num.natAbs.log2 ≤ value.num.natAbs := by
    exact_mod_cast Nat.log2_self_le numerator
  have numUpper : (value.num.natAbs : Rat) < 2 ^ (value.num.natAbs.log2 + 1) := by
    exact_mod_cast Nat.lt_log2_self
  have denLower : (2 : Rat) ^ value.den.log2 ≤ value.den := by
    exact_mod_cast Nat.log2_self_le value.den_ne_zero
  have denUpper : (value.den : Rat) < 2 ^ (value.den.log2 + 1) := by
    exact_mod_cast Nat.lt_log2_self
  have den : (0 : Rat) < value.den := by exact_mod_cast value.den_pos
  constructor
  · calc (2 : Rat) ^ ((value.num.natAbs.log2 : Int) - value.den.log2 - 1)
        = 2 ^ value.num.natAbs.log2 / 2 ^ (value.den.log2 + 1) := by
          rw [sub_sub, zpow_sub₀ two_ne_zero]
          norm_cast
      _ ≤ value.num.natAbs / value.den := by gcongr
      _ = value := quotient.symm
  · calc value = value.num.natAbs / value.den := quotient
      _ < 2 ^ (value.num.natAbs.log2 + 1) / 2 ^ value.den.log2 := by gcongr
      _ = 2 ^ ((value.num.natAbs.log2 : Int) - value.den.log2 + 1) := by
          rw [sub_add_eq_add_sub, zpow_sub₀ two_ne_zero]
          norm_cast

/-- At the finest step a number takes at most fifty-three bits, and at a finer one, which
the subnormal numbers do not have, it would take more. -/
theorem finestExponent_spec {value : Rat} (positive : 0 < value) :
    subnormalExponent ≤ finestExponent value ∧ value < 2 ^ (finestExponent value + 53) ∧
      (finestExponent value = subnormalExponent ∨ 2 ^ (finestExponent value + 52) ≤ value) := by
  obtain ⟨lower, upper⟩ := log2_spec positive
  unfold finestExponent
  simp only
  generalize (value.num.natAbs.log2 : Int) - value.den.log2 = logarithm at *
  have least := le_max_left subnormalExponent (logarithm - 53)
  have enough := le_max_right subnormalExponent (logarithm - 53)
  split_ifs with fits
  · refine ⟨least, fits, ?_⟩
    rcases max_choice subnormalExponent (logarithm - 53) with same | same
    · exact .inl same
    · right
      rw [same]
      convert lower using 2
      ring
  · refine ⟨by omega, upper.trans_le ?_, .inr ?_⟩
    · apply zpow_le_zpow_right₀ one_le_two
      omega
    · have still := not_lt.mp fits
      rw [add_assoc]
      exact still

/-- A positive number is a number of finest steps that fits into a rank. -/
theorem exists_finest_steps {value : Rat} (positive : 0 < value) :
    ∃ (rank : Nat) (steps : Rat), finestExponent value = rank + subnormalExponent ∧
      value = steps * 2 ^ (rank + subnormalExponent) ∧ steps ≤ (2 * fractionCodes : Nat) ∧
      (rank = 0 ∨ (fractionCodes : Rat) ≤ steps) := by
  obtain ⟨least, upper, normal⟩ := finestExponent_spec positive
  obtain ⟨rank, stands⟩ : ∃ rank : Nat, finestExponent value = rank + subnormalExponent :=
    ⟨(finestExponent value - subnormalExponent).toNat, by omega⟩
  rw [stands] at upper normal
  have lowest : (rank : Int) + subnormalExponent = subnormalExponent ↔ rank = 0 := by omega
  rw [zpow_add₀ two_ne_zero _ 53] at upper
  rw [zpow_add₀ two_ne_zero _ 52, lowest] at normal
  have unit : (0 : Rat) < 2 ^ (rank + subnormalExponent) := zpow_pos two_pos _
  refine ⟨rank, value / 2 ^ (rank + subnormalExponent), stands, ?_, ?_, ?_⟩
  · rw [div_mul_cancel₀ _ unit.ne']
  · rw [div_le_iff₀' unit]
    exact upper.le.trans_eq (by norm_num [fractionCodes])
  · rw [le_div_iff₀' unit]
    exact normal.imp_right fun many => le_trans (by norm_num [fractionCodes]) many

/-! ## The code that is computed -/

/-- A number of steps of a rank is rounded to the nearest whole number of them, if the
rank is the lowest one or there are enough of them. -/
theorem roundsTo_add {steps : Rat} {rank count : Nat} (fits : count ≤ 2 * fractionCodes)
    (normal : rank = 0 ∨ (fractionCodes : Rat) ≤ steps) (near : |count - steps| ≤ 1 / 2)
    (even : |count - steps| = 1 / 2 → count % 2 = 0) :
    RoundsTo (steps * 2 ^ (rank + subnormalExponent)) (rank * fractionCodes + count) := by
  obtain ⟨lower, upper⟩ := abs_le.mp near
  have enough : rank = 0 ∨ fractionCodes ≤ count := by
    refine normal.imp_right fun many => ?_
    by_contra few
    have few : (count : Rat) + 1 ≤ fractionCodes := by exact_mod_cast not_le.mp few
    linarith
  have stands := codeValue_add fits enough
  have above := le_codeStep_add enough
  -- A count that was rounded up is not the least of its rank, so the step below it is the same.
  have below {last : Nat} (follows : last + 1 = rank * fractionCodes + count)
      (up : steps < count) : codeStep last = 2 ^ (rank + subnormalExponent) := by
    apply codeStep_of_succ_eq_add follows fits
    refine normal.imp_right fun many => ?_
    exact_mod_cast many.trans_lt up
  have parity : (rank * fractionCodes + count) % 2 = count % 2 := by
    unfold fractionCodes
    omega
  have unit_pos : (0 : Rat) < 2 ^ (rank + subnormalExponent) := zpow_pos two_pos _
  generalize (2 : Rat) ^ (rank + subnormalExponent) = unit at *
  have most : (steps - count) * unit ≤ 1 / 2 * unit :=
    mul_le_mul_of_nonneg_right (by linarith) unit_pos.le
  have least : (count - steps) * unit ≤ 1 / 2 * unit :=
    mul_le_mul_of_nonneg_right (by linarith) unit_pos.le
  apply roundsTo_of_within
  case above =>
    rw [stands]
    linarith
  case below =>
    intro last follows
    rw [stands]
    rcases le_or_gt (count : Rat) steps with down | up
    · linarith [mul_le_mul_of_nonneg_right down unit_pos.le, codeStep_pos last]
    · rw [below follows up]
      linarith
  case even =>
    rw [stands, parity]
    rintro (far | ⟨last, follows, far⟩)
    · have half : 1 / 2 ≤ steps - count :=
        le_of_mul_le_mul_right (by linarith : 1 / 2 * unit ≤ (steps - count) * unit) unit_pos
      exact even (le_antisymm near (half.trans (abs_sub_comm steps count ▸ le_abs_self _)))
    · have up : steps < count :=
        lt_of_mul_lt_mul_right (by linarith [codeStep_pos last] : steps * unit < count * unit)
          unit_pos.le
      rw [below follows up] at far
      have half : 1 / 2 ≤ count - steps :=
        le_of_mul_le_mul_right (by linarith : 1 / 2 * unit ≤ (count - steps) * unit) unit_pos
      exact even (le_antisymm near (half.trans (le_abs_self _)))

/-- Every value is rounded to the code that is computed, or past infinity. -/
theorem exists_roundsTo (value : Rat) :
    ∃ code, RoundsTo value code ∧ nearestCode value = min infinityCode code := by
  rcases le_or_gt value 0 with negative | positive
  · refine ⟨0, roundsTo_of_within ?_ nofun fun _ => rfl, by simp [nearestCode, negative]⟩
    linarith [codeValue_nonneg 0, codeStep_pos 0]
  obtain ⟨rank, steps, stands, rfl, fits, normal⟩ := exists_finest_steps positive
  have unit : (0 : Rat) < 2 ^ (rank + subnormalExponent) := zpow_pos two_pos _
  have nonneg : 0 ≤ steps := (pos_of_mul_pos_left positive unit.le).le
  obtain ⟨count, whole⟩ : ∃ count : Nat, roundHalfEven steps = count :=
    Int.eq_ofNat_of_zero_le (le_roundHalfEven (by exact_mod_cast nonneg))
  have small : roundHalfEven steps ≤ (2 * fractionCodes : Nat) :=
    roundHalfEven_le (by exact_mod_cast fits)
  have near := roundHalfEven_spec steps
  rw [whole] at small near
  refine ⟨rank * fractionCodes + count, ?_, ?_⟩
  · exact roundsTo_add (by exact_mod_cast small) normal near.1 fun tie => by
      exact_mod_cast near.2 tie
  · have back : steps * 2 ^ (rank + subnormalExponent) / Rat.zpow 2 (rank + subnormalExponent) =
        steps := mul_div_cancel_right₀ steps unit.ne'
    rw [nearestCode, if_neg (not_le.mpr positive)]
    simp only [stands, add_sub_cancel_right, Int.toNat_natCast, back, whole]

/-- A value has the code that it is rounded to, unless that is past infinity. -/
theorem RoundsTo.nearestCode_eq {value : Rat} {code : Nat} (rounds : RoundsTo value code) :
    nearestCode value = min infinityCode code := by
  obtain ⟨computed, again, same⟩ := exists_roundsTo value
  rw [same, rounds.unique again]

/-- A finite code is computed for the values that are rounded to it and for no others. -/
theorem nearestCode_eq_iff {value : Rat} {code : Nat} (finite : code < infinityCode) :
    nearestCode value = code ↔ RoundsTo value code := by
  obtain ⟨computed, rounds, same⟩ := exists_roundsTo value
  constructor
  · intro reads
    obtain rfl : computed = code := by omega
    exact rounds
  · intro rounds
    rw [rounds.nearestCode_eq, min_eq_right finite.le]

end LoxLexer.Number
