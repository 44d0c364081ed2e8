/-
# The shortest decimal is read back

Around the value of a code lie decimals that are rounded to it. On a grid of powers of
ten one of them is next to the value if there is any, and seventeen digits are enough
for one. So the search from the coarsest grid on ends with a decimal that is read back,
and none that is read back has a larger exponent or fewer digits.
-/

import LoxLexer.Number.Notation
import LoxLexer.Proofs.Number.Rounding

namespace LoxLexer.Number

theorem ten_zpow_pos (exponent : Int) : (0 : Rat) < 10 ^ exponent := zpow_pos (by norm_num) exponent

/-! ## Lengths of numbers -/

/-- A number is less than the power of ten that has one digit more. -/
theorem lt_pow_length_toDigits (number : Nat) : number < 10 ^ (Nat.toDigits 10 number).length :=
  (Nat.length_toDigits_le_iff (by norm_num) Nat.length_toDigits_pos).mp (le_refl _)

/-- A positive number is at least the power of ten that has as many digits. -/
theorem pow_length_toDigits_le {number : Nat} (positive : 0 < number) :
    10 ^ ((Nat.toDigits 10 number).length - 1) ≤ number := by
  rcases Nat.eq_zero_or_pos ((Nat.toDigits 10 number).length - 1) with single | several
  · rw [single, pow_zero]
    exact positive
  · by_contra small
    have short := (Nat.length_toDigits_le_iff (by norm_num) several).mpr (not_le.mp small)
    omega

/-- A number from one on has as many digits as its floor. -/
theorem toDigits_floor_spec {value : Rat} (large : 1 ≤ value) :
    (10 : Rat) ^ (((Nat.toDigits 10 value.floor.toNat).length : Int) - 1) ≤ value ∧
      value < 10 ^ ((Nat.toDigits 10 value.floor.toNat).length : Int) := by
  have lower := Rat.floor_le value
  have upper := Rat.lt_floor_add_one value
  have positive : 1 ≤ value.floor := Int.le_floor.mpr (by exact_mod_cast large)
  obtain ⟨whole, same⟩ := Int.eq_ofNat_of_zero_le (zero_le_one.trans positive)
  rw [same] at lower upper positive ⊢
  have least := pow_length_toDigits_le (by exact_mod_cast positive : 0 < whole)
  have most := Nat.succ_le_of_lt (lt_pow_length_toDigits whole)
  obtain ⟨fewer, length⟩ :=
    Nat.exists_eq_succ_of_ne_zero (Nat.length_toDigits_pos (b := 10) (n := whole)).ne'
  rw [length] at least most
  rw [Int.toNat_natCast, length]
  push_cast at upper ⊢
  constructor
  · rw [add_sub_cancel_right, zpow_natCast]
    exact le_trans (by exact_mod_cast least) lower
  · exact upper.trans_le (by exact_mod_cast most)

/-- The coarsest power of ten is at least the value and at most ten times as large. -/
theorem coarsestExponent_spec {value : Rat} (positive : 0 < value) :
    (10 : Rat) ^ (coarsestExponent value - 1) ≤ value ∧ value ≤ 10 ^ coarsestExponent value := by
  unfold coarsestExponent
  split_ifs with large
  · obtain ⟨lower, upper⟩ := toDigits_floor_spec large
    exact ⟨lower, upper.le⟩
  · have inverse : 1 ≤ value.inv := (one_le_inv₀ positive).mpr (not_le.mp large).le
    obtain ⟨lower, upper⟩ := toDigits_floor_spec inverse
    generalize ((Nat.toDigits 10 value.inv.floor.toNat).length : Int) = digits at *
    have exponent : (1 : Int) - digits = -(digits - 1) := by ring
    have before : (1 : Int) - digits - 1 = -digits := by ring
    rw [before, exponent, zpow_neg, zpow_neg]
    exact ⟨(inv_le_comm₀ (ten_zpow_pos _) positive).mpr upper.le,
      (le_inv_comm₀ positive (ten_zpow_pos _)).mpr lower⟩

/-! ## The two points around a value -/

variable {value : Rat} {code : Nat} {exponent : Int} {decimal : Decimal}

theorem Decimal.value_eq_mul (decimal : Decimal) :
    decimal.value = decimal.digits * 10 ^ decimal.exponent := rfl

/-- One neighbour has the largest number of steps that is not above the value, and the
other one step more. -/
theorem exists_mem_gridNeighbours_iff (nonneg : 0 ≤ value) (exponent : Int) :
    ∃ low : Nat, (low : Rat) * 10 ^ exponent ≤ value ∧ value < (low + 1) * 10 ^ exponent ∧
      ∀ decimal, decimal ∈ gridNeighbours value exponent ↔
        decimal = ⟨low, exponent⟩ ∨ decimal = ⟨low + 1, exponent⟩ := by
  have unit := ten_zpow_pos exponent
  have scaled : 0 ≤ (value / 10 ^ exponent).floor :=
    Int.floor_nonneg.mpr (div_nonneg nonneg unit.le)
  obtain ⟨low, whole⟩ := Int.eq_ofNat_of_zero_le scaled
  have lower := Rat.floor_le (value / 10 ^ exponent)
  have upper := Rat.lt_floor_add_one (value / 10 ^ exponent)
  rw [whole] at lower upper
  refine ⟨low, (le_div_iff₀ unit).mp (by exact_mod_cast lower),
    (div_lt_iff₀ unit).mp (by exact_mod_cast upper), ?_⟩
  have same : (value / Rat.zpow 10 exponent).floor = low := whole
  intro decimal
  simp only [gridNeighbours, same, Int.toNat_natCast]
  split_ifs
  · exact List.mem_pair
  · exact List.mem_pair.trans Or.comm

theorem exponent_of_mem_gridNeighbours (nonneg : 0 ≤ value)
    (member : decimal ∈ gridNeighbours value exponent) : decimal.exponent = exponent := by
  obtain ⟨low, -, -, neighbours⟩ := exists_mem_gridNeighbours_iff nonneg exponent
  rcases (neighbours decimal).mp member with rfl | rfl <;> rfl

/-- A point of a grid is beyond a neighbour of the value, or is one. -/
theorem exists_neighbour_between (nonneg : 0 ≤ value) (decimal : Decimal) :
    ∃ neighbour ∈ gridNeighbours value decimal.exponent,
      decimal.value ≤ neighbour.value ∧ neighbour.value ≤ value ∨
        value ≤ neighbour.value ∧ neighbour.value ≤ decimal.value := by
  have unit := ten_zpow_pos decimal.exponent
  obtain ⟨low, lower, upper, neighbours⟩ := exists_mem_gridNeighbours_iff nonneg decimal.exponent
  rcases Nat.lt_or_ge low decimal.digits with above | below
  · refine ⟨_, (neighbours _).mpr (.inr rfl), .inr ⟨?_, ?_⟩⟩
    · rw [Decimal.value_eq_mul]
      push_cast
      exact upper.le
    · rw [Decimal.value_eq_mul, Decimal.value_eq_mul]
      gcongr
      exact above
  · refine ⟨_, (neighbours _).mpr (.inl rfl), .inl ⟨?_, lower⟩⟩
    rw [Decimal.value_eq_mul, Decimal.value_eq_mul]
    gcongr

/-- One of the neighbours is at most half a step of the grid away. -/
theorem exists_neighbour_near (nonneg : 0 ≤ value) (exponent : Int) :
    ∃ neighbour ∈ gridNeighbours value exponent, |neighbour.value - value| ≤ 10 ^ exponent / 2 := by
  have unit := ten_zpow_pos exponent
  obtain ⟨low, lower, upper, neighbours⟩ := exists_mem_gridNeighbours_iff nonneg exponent
  rcases le_total (value - low * 10 ^ exponent) (10 ^ exponent / 2) with near | far
  · refine ⟨_, (neighbours _).mpr (.inl rfl), ?_⟩
    rw [Decimal.value_eq_mul, abs_of_nonpos (by linarith)]
    linarith
  · refine ⟨_, (neighbours _).mpr (.inr rfl), ?_⟩
    rw [Decimal.value_eq_mul]
    push_cast
    rw [abs_of_nonneg (by linarith)]
    linarith

/-! ## Reading back -/

theorem readsBackAs_iff (finite : code < infinityCode) :
    readsBackAs code decimal = true ↔ RoundsTo decimal.value code := by
  rw [readsBackAs, decide_eq_true_iff, nearestCode_eq_iff finite]

/-- Where a point of a grid is read back, a neighbour of the value is. -/
theorem exists_neighbour_readsBackAs (finite : code < infinityCode)
    (reads : readsBackAs code decimal = true) :
    ∃ neighbour ∈ gridNeighbours (codeValue code) decimal.exponent,
      readsBackAs code neighbour = true := by
  obtain ⟨neighbour, member, lies⟩ := exists_neighbour_between (codeValue_nonneg code) decimal
  rw [readsBackAs_iff finite] at reads
  exact ⟨neighbour, member, (readsBackAs_iff finite).mpr (reads.between lies)⟩

/-- What is as close to a value as seventeen digits allow is rounded to its code. -/
theorem roundsTo_of_close (positive : 0 < code)
    (close : |value - codeValue code| ≤ codeValue code / 10 ^ 16 / 2) : RoundsTo value code := by
  obtain ⟨last, rfl⟩ := Nat.exists_eq_succ_of_ne_zero positive.ne'
  rw [Nat.succ_eq_add_one] at *
  have bound := codeValue_succ_le last
  have step := codeStep_pos last
  have wider := codeStep_mono (Nat.le_succ last)
  have within : |value - codeValue (last + 1)| < codeStep last / 2 := by
    refine close.trans_lt ?_
    linarith
  obtain ⟨lower, upper⟩ := abs_lt.mp within
  apply roundsTo_of_within
  case above => linarith
  case below =>
    intro below follows
    obtain rfl : below = last := Nat.succ.inj follows
    linarith
  case even =>
    rintro (far | ⟨below, follows, far⟩)
    · linarith
    · obtain rfl : below = last := Nat.succ.inj follows
      linarith

/-- The last grid that is searched has a neighbour that is read back. -/
theorem exists_seventeen_digits (positive : 0 < code) (finite : code < infinityCode) :
    ∃ neighbour ∈ gridNeighbours (codeValue code) (coarsestExponent (codeValue code) - 17),
      readsBackAs code neighbour = true := by
  obtain ⟨lower, -⟩ := coarsestExponent_spec (codeValue_pos positive)
  obtain ⟨neighbour, member, near⟩ := exists_neighbour_near (codeValue_nonneg code)
    (coarsestExponent (codeValue code) - 17)
  refine ⟨neighbour, member, (readsBackAs_iff finite).mpr (roundsTo_of_close positive ?_)⟩
  have grid : (10 : Rat) ^ (coarsestExponent (codeValue code) - 17) =
      10 ^ (coarsestExponent (codeValue code) - 1) / 10 ^ 16 := by
    rw [← zpow_natCast, ← zpow_sub₀ (by norm_num)]
    congr 1
    ring
  rw [grid] at near
  exact near.trans (by gcongr)

/-! ## The search -/

/-- All that is smaller than a member of a range stands before it. -/
theorem mem_of_range_eq_append {bound member smaller : Nat} {before behind : List Nat}
    (range : List.range bound = before ++ member :: behind) (lt : smaller < member) :
    smaller ∈ before := by
  have inside : member ∈ List.range bound := by simp [range]
  have ascends : (List.range bound).Pairwise (· < ·) := List.pairwise_lt_range
  have stands : smaller ∈ before ++ member :: behind := by
    rw [← range, List.mem_range]
    exact lt.trans (List.mem_range.mp inside)
  rw [range] at ascends
  obtain ⟨-, behindAscends, -⟩ := List.pairwise_append.mp ascends
  rcases List.mem_append.mp stands with found | found
  · exact found
  · rcases List.mem_cons.mp found with rfl | found
    · exact absurd lt (lt_irrefl _)
    · exact absurd lt ((List.rel_of_pairwise_cons behindAscends found).not_gt)

/-- The search ends on one of the grids, with a neighbour that is read back, and no
neighbour on the grids before it is. -/
theorem exists_step_shortestDecimal (positive : 0 < code) (finite : code < infinityCode) :
    ∃ step : Nat, (shortestDecimal code).exponent = coarsestExponent (codeValue code) - step ∧
      readsBackAs code (shortestDecimal code) = true ∧
      ∀ earlier < step, ∀ neighbour ∈
        gridNeighbours (codeValue code) (coarsestExponent (codeValue code) - (earlier : Nat)),
          readsBackAs code neighbour = false := by
  let search (step : Nat) : Option Decimal :=
    (gridNeighbours (codeValue code) (coarsestExponent (codeValue code) - step)).find?
      (readsBackAs code)
  have searched : shortestDecimal code =
      ((List.range 18).findSome? search).getD (exactDecimal code) := by
    simp only [shortestDecimal, List.findSome?_map]
    rfl
  have ends : ((List.range 18).findSome? search).isSome = true := by
    obtain ⟨neighbour, member, reads⟩ := exists_seventeen_digits positive finite
    refine List.findSome?_isSome_iff.mpr ⟨17, by simp, ?_⟩
    exact List.find?_isSome.mpr ⟨neighbour, member, reads⟩
  obtain ⟨found, same⟩ := Option.isSome_iff_exists.mp ends
  obtain ⟨before, step, behind, range, here, none⟩ := List.findSome?_eq_some_iff.mp same
  rw [searched, same, Option.getD_some]
  refine ⟨step, ?_, List.find?_some here, ?_⟩
  · exact exponent_of_mem_gridNeighbours (codeValue_nonneg code) (List.mem_of_find?_eq_some here)
  · intro earlier lt neighbour member
    have unread := List.find?_eq_none.mp (none earlier (mem_of_range_eq_append range lt))
    exact Bool.eq_false_of_not_eq_true (unread neighbour member)

/-- On a grid past the coarsest one nothing but zero is close to the value. -/
theorem RoundsTo.exponent_le_coarsestExponent (rounds : RoundsTo decimal.value code)
    (positive : 0 < code) : decimal.exponent ≤ coarsestExponent (codeValue code) := by
  by_contra coarser
  obtain ⟨-, upper⟩ := coarsestExponent_spec (codeValue_pos positive)
  have unit := ten_zpow_pos (coarsestExponent (codeValue code))
  have nonzero : 1 ≤ decimal.digits := by
    rw [Nat.one_le_iff_ne_zero]
    intro none
    rw [Decimal.value_eq_mul, none, Nat.cast_zero, zero_mul, ← codeValue_zero] at rounds
    exact positive.ne (RoundsTo.unique (roundsTo_codeValue 0) rounds)
  have large : 10 * (10 : Rat) ^ coarsestExponent (codeValue code) ≤ decimal.value := by
    rw [← zpow_one_add₀ (by norm_num), Decimal.value_eq_mul]
    have one : (1 : Rat) ≤ decimal.digits := by exact_mod_cast nonzero
    calc (10 : Rat) ^ (1 + coarsestExponent (codeValue code)) ≤ 10 ^ decimal.exponent :=
          zpow_le_zpow_right₀ (by norm_num) (by omega)
      _ ≤ decimal.digits * 10 ^ decimal.exponent :=
          le_mul_of_one_le_left (ten_zpow_pos _).le one
  -- The next code lies between, so it would be rounded to this one.
  have next := codeValue_succ code
  have step := codeStep_pos code
  have small := codeStep_le_codeValue positive
  have passed : RoundsTo (codeValue (code + 1)) code :=
    rounds.between (.inr ⟨by linarith, by linarith⟩)
  exact absurd (passed.unique (roundsTo_codeValue (code + 1))) (Nat.succ_ne_self code).symm

/-- No decimal that is read back lies on a coarser grid than the shortest one. -/
theorem exponent_le_shortestDecimal (positive : 0 < code) (finite : code < infinityCode)
    (reads : readsBackAs code decimal = true) :
    decimal.exponent ≤ (shortestDecimal code).exponent := by
  obtain ⟨step, stands, -, unread⟩ := exists_step_shortestDecimal positive finite
  have coarsest := ((readsBackAs_iff finite).mp reads).exponent_le_coarsestExponent positive
  by_contra coarser
  obtain ⟨earlier, early⟩ := Int.le.dest coarsest
  obtain ⟨neighbour, member, found⟩ := exists_neighbour_readsBackAs finite reads
  rw [eq_sub_of_add_eq early] at member
  rw [unread earlier (by omega) neighbour member] at found
  contradiction

/-- No decimal that is read back has fewer digits than the shortest one. -/
theorem length_toDigits_shortestDecimal_le (positive : 0 < code) (finite : code < infinityCode)
    (reads : readsBackAs code decimal = true) :
    (Nat.toDigits 10 (shortestDecimal code).digits).length ≤
      (Nat.toDigits 10 decimal.digits).length := by
  by_contra fewer
  obtain ⟨-, -, readsShortest, -⟩ := exists_step_shortestDecimal positive finite
  have exponents := exponent_le_shortestDecimal positive finite reads
  have written := Nat.length_toDigits_pos (b := 10) (n := decimal.digits)
  have most := lt_pow_length_toDigits decimal.digits
  generalize (Nat.toDigits 10 decimal.digits).length = length at *
  have least : 10 ^ length ≤ (shortestDecimal code).digits := by
    by_contra short
    exact fewer ((Nat.length_toDigits_le_iff (by norm_num) written).mpr (not_le.mp short))
  rw [readsBackAs_iff finite] at reads readsShortest
  -- Between the two decimals there is a power of ten, and it lies on a coarser grid.
  let power : Decimal := ⟨1, (shortestDecimal code).exponent + length⟩
  have stands : power.value = 10 ^ length * 10 ^ (shortestDecimal code).exponent := by
    rw [Decimal.value_eq_mul, Nat.cast_one, one_mul, zpow_add₀ (by norm_num), zpow_natCast,
      mul_comm]
  have lower : decimal.value ≤ power.value := by
    rw [stands, Decimal.value_eq_mul]
    have grids := zpow_le_zpow_right₀ (by norm_num : (1 : Rat) ≤ 10) exponents
    have digits : (decimal.digits : Rat) ≤ 10 ^ length := by exact_mod_cast most.le
    have unit := ten_zpow_pos decimal.exponent
    gcongr
  have upper : power.value ≤ (shortestDecimal code).value := by
    rw [stands, Decimal.value_eq_mul]
    have unit := ten_zpow_pos (shortestDecimal code).exponent
    gcongr
    exact_mod_cast least
  have rounds : RoundsTo power.value code := by
    rcases le_total power.value (codeValue code) with below | above
    · exact reads.between (.inl ⟨lower, below⟩)
    · exact readsShortest.between (.inr ⟨above, upper⟩)
  have coarser := exponent_le_shortestDecimal positive finite ((readsBackAs_iff finite).mpr rounds)
  simp only [power] at coarser
  omega

end LoxLexer.Number
