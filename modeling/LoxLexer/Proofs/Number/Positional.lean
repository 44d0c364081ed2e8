/-
# Positional notation keeps the value

A decimal is written positionally with its own digits and with zeros before and behind
them, and a point that has digits on both sides. So zero and the doubles from one
ten-thousandth to ten to the sixteenth are displayed by a numeral that denotes them and
has as few digits as a decimal can have that is read as the double.
-/

import LoxLexer.Number.Notation
import LoxLexer.Proofs.Number.Shortest
import Mathlib.Data.List.DropRight

namespace LoxLexer.Number

/-! ## The digits that are written -/

/-- A decimal is written with zeros before and behind its own digits, and the point is
where they have the value of the decimal. -/
theorem Decimal.exists_padding (decimal : Decimal) :
    ∃ before behind : Nat,
      decimal.positional.whole ++ decimal.positional.fraction =
        List.replicate before '0' ++ (Nat.toDigits 10 decimal.digits ++ List.replicate behind '0') ∧
      (decimal.positional.fraction.length : Int) = behind - decimal.exponent := by
  unfold positional
  simp only
  split_ifs with integral inside
  · refine ⟨0, decimal.exponent.toNat + 1, ?_, ?_⟩
    · simp [List.replicate_succ']
    · simp
      omega
  · refine ⟨0, 0, by simp, ?_⟩
    simp
    omega
  · refine ⟨decimal.exponent.natAbs - (Nat.toDigits 10 decimal.digits).length + 1, 0, ?_, ?_⟩
    · simp [List.replicate_succ]
    · simp
      omega

theorem Decimal.whole_positional_ne_nil (decimal : Decimal) : decimal.positional.whole ≠ [] := by
  unfold positional
  simp only
  split_ifs with integral inside
  · simp [Nat.toDigits_ne_nil]
  · simp [Nat.toDigits_ne_nil]
    omega
  · simp

/-- A point is written, with a digit behind it. -/
theorem Decimal.fraction_positional_ne_nil (decimal : Decimal) :
    decimal.positional.fraction ≠ [] := by
  unfold positional
  simp only
  split_ifs with integral inside
  · simp
  · simp
    omega
  · simp [Nat.toDigits_ne_nil]

theorem Decimal.isDigit_positional (decimal : Decimal) :
    ∀ digit ∈ decimal.positional.whole ++ decimal.positional.fraction, digit.isDigit = true := by
  obtain ⟨before, behind, written, -⟩ := decimal.exists_padding
  intro digit member
  rw [written] at member
  simp only [List.mem_append, List.mem_replicate] at member
  rcases member with ⟨-, rfl⟩ | member | ⟨-, rfl⟩
  · rfl
  · exact Nat.isDigit_of_mem_toDigits (by norm_num) (le_refl _) member
  · rfl

/-- A decimal that is written positionally has the same value. -/
theorem Decimal.value_positional (decimal : Decimal) :
    decimal.positional.decimal.value = decimal.value := by
  obtain ⟨before, behind, written, point⟩ := decimal.exists_padding
  have digits : Nat.ofDigitChars 10 (decimal.positional.whole ++ decimal.positional.fraction) 0 =
      10 ^ behind * decimal.digits := by
    rw [written, Nat.ofDigitChars_append, Nat.ofDigitChars_append, Nat.ofDigitChars_replicate_zero,
      Nat.ofDigitChars_replicate_zero, Nat.mul_zero, Nat.ofDigitChars_ten_toDigits]
  have exponent : decimal.exponent = behind + -(decimal.positional.fraction.length : Int) := by
    omega
  rw [value_eq_mul, value_eq_mul, Numeral.decimal, digits, exponent, zpow_add₀ (by norm_num),
    zpow_natCast]
  push_cast
  ring

/-- The digits of a numeral from the first to the last that is not zero. -/
def Numeral.significant (numeral : Numeral) : List Char :=
  ((numeral.whole ++ numeral.fraction).dropWhile (· = '0')).rdropWhile (· = '0')

/-- Zeros that are written around the digits of a decimal are not significant. -/
theorem Decimal.length_significant_positional_le (decimal : Decimal) :
    decimal.positional.significant.length ≤ (Nat.toDigits 10 decimal.digits).length := by
  obtain ⟨before, behind, written, -⟩ := decimal.exists_padding
  have zeros (count : Nat) : ∀ digit ∈ List.replicate count '0', decide (digit = '0') = true := by
    intro digit member
    exact decide_eq_true (List.eq_of_mem_replicate member)
  rw [Numeral.significant, written, List.dropWhile_append_of_pos (zeros before),
    List.dropWhile_append]
  split_ifs with blank
  · rw [List.dropWhile_eq_nil_iff.mpr (zeros behind)]
    exact Nat.zero_le _
  · rw [List.rdropWhile, List.reverse_append, List.reverse_replicate,
      List.dropWhile_append_of_pos (zeros behind), List.length_reverse]
    calc _ ≤ (List.dropWhile (· = '0') (Nat.toDigits 10 decimal.digits)).reverse.length :=
          (List.dropWhile_suffix _).length_le
      _ ≤ (Nat.toDigits 10 decimal.digits).length := by
          rw [List.length_reverse]
          exact (List.dropWhile_suffix _).length_le

/-! ## Plain displays -/

/-- A numeral shows a double plainly: with digits on both sides of a point, and with as
few significant ones as a decimal has that is read as the double. -/
structure Numeral.Shows (numeral : Numeral) (double : Binary64) : Prop where
  whole : numeral.whole ≠ []
  fraction : numeral.fraction ≠ []
  isDigit : ∀ digit ∈ numeral.whole ++ numeral.fraction, digit.isDigit = true
  denotes : numeral.denotation = double
  fewest : ∀ decimal : Decimal, Binary64.nearest decimal.value = double →
    numeral.significant.length ≤ (Nat.toDigits 10 decimal.digits).length

namespace Binary64

variable {double : Binary64} {code : Nat} {value : Rat}

/-- A double without sign is its code. -/
theorem ofCode_code (unsigned : double.isNegative = false) : ofCode double.code = double := by
  have small : double.bits.toNat < signBit := by simpa [isNegative] using unsigned
  rw [ofCode, code, Nat.mod_eq_of_lt small, UInt64.ofNat_toNat]

theorem toNat_bits_ofCode (small : code ≤ infinityCode) : (ofCode code).bits.toNat = code := by
  apply UInt64.toNat_ofNat_of_lt'
  exact small.trans_lt (by decide)

theorem code_ofCode (small : code ≤ infinityCode) : (ofCode code).code = code := by
  rw [Binary64.code, toNat_bits_ofCode small]
  exact Nat.mod_eq_of_lt (small.trans_lt (by decide))

theorem nearestCode_le (value : Rat) : nearestCode value ≤ infinityCode := by
  obtain ⟨code, -, same⟩ := exists_roundsTo value
  exact same ▸ min_le_left _ _

/-- What is read has no sign. -/
theorem isNegative_nearest (value : Rat) : (nearest value).isNegative = false := by
  rw [nearest, isNegative, toNat_bits_ofCode (nearestCode_le value)]
  exact decide_eq_false (not_le.mpr ((nearestCode_le value).trans_lt (by decide)))

/-- A value is read as a double without sign just if it is read as its code. -/
theorem nearest_eq_iff (unsigned : double.isNegative = false) :
    nearest value = double ↔ nearestCode value = double.code := by
  constructor
  · rintro rfl
    exact (code_ofCode (nearestCode_le value)).symm
  · intro same
    rw [nearest, same, ofCode_code unsigned]

/-! ## The range of plain displays -/

theorem leastPositionalCode_le (large : 1 / 10000 ≤ codeValue code) :
    leastPositionalCode ≤ code := by
  obtain ⟨least, rounds, same⟩ := exists_roundsTo (mkRat 1 10000)
  have below : mkRat 1 10000 ≤ codeValue code := by
    rw [Rat.mkRat_eq_div]
    exact large
  rw [leastPositionalCode, same]
  exact (min_le_right _ _).trans (rounds.le_of_le_codeValue below)

/-- Ten to the sixteenth is the value of a code. -/
theorem codeValue_leastScientificCode : codeValue leastScientificCode = 10 ^ 16 := by
  have stands : codeValue (1075 * fractionCodes + 5000000000000000) =
      mkRat 10000000000000000 1 := by
    rw [codeValue_add (by decide) (by decide)]
    norm_num [subnormalExponent]
  have finite : 1075 * fractionCodes + 5000000000000000 < infinityCode := by decide
  have same : leastScientificCode = 1075 * fractionCodes + 5000000000000000 :=
    (nearestCode_eq_iff finite).mpr (stands ▸ roundsTo_codeValue _)
  rw [same, stands]
  norm_num

theorem lt_leastScientificCode (small : codeValue code < 10 ^ 16) : code < leastScientificCode := by
  rw [← codeValue_leastScientificCode] at small
  exact codeValue_strictMono.lt_iff_lt.mp small

/-! ## Plain displays -/

/-- Zero is shown with one digit on both sides of the point. -/
theorem shows_zero : Numeral.Shows ⟨['0'], ['0']⟩ (ofCode 0) where
  whole := List.cons_ne_nil _ _
  fraction := List.cons_ne_nil _ _
  isDigit digit member := by
    rcases List.mem_pair.mp member with rfl | rfl <;> rfl
  denotes := by
    have zero : Numeral.decimal ⟨['0'], ['0']⟩ = ⟨0, -1⟩ := rfl
    rw [Numeral.denotation, zero, nearest, nearestCode, Decimal.value_eq_mul]
    simp
  fewest _ _ := Nat.zero_le _

/-- The shortest decimal shows its double in positional notation. -/
theorem shows_shortestDecimal (unsigned : double.isNegative = false) (positive : 0 < double.code)
    (finite : double.code < infinityCode) :
    (shortestDecimal double.code).positional.Shows double where
  whole := Decimal.whole_positional_ne_nil _
  fraction := Decimal.fraction_positional_ne_nil _
  isDigit := Decimal.isDigit_positional _
  denotes := by
    obtain ⟨-, -, reads, -⟩ := exists_step_shortestDecimal positive finite
    rw [Numeral.denotation, Decimal.value_positional, nearest_eq_iff unsigned]
    exact of_decide_eq_true reads
  fewest decimal reads := by
    refine (Decimal.length_significant_positional_le _).trans ?_
    apply length_toDigits_shortestDecimal_le positive finite
    exact decide_eq_true ((nearest_eq_iff unsigned).mp reads)

/-- A double without sign is displayed plainly if it is zero or in the plain range. -/
theorem exists_shows_display (unsigned : double.isNegative = false)
    (plain : codeValue double.code = 0 ∨
      1 / 10000 ≤ codeValue double.code ∧ codeValue double.code < 10 ^ 16) :
    ∃ numeral : Numeral, double.display = String.ofList numeral.text ∧ numeral.Shows double := by
  rcases plain with zero | ⟨large, small⟩
  · rw [← ofCode_code unsigned, codeValue_eq_zero_iff.mp zero]
    exact ⟨_, rfl, shows_zero⟩
  · have below := lt_leastScientificCode small
    have finite : double.code < infinityCode := below.trans_le (nearestCode_le _)
    have positive : 0 < double.code := by
      rw [Nat.pos_iff_ne_zero, ← codeValue_eq_zero_iff.ne]
      linarith
    refine ⟨_, ?_, shows_shortestDecimal unsigned positive finite⟩
    have number : double.isNaN = false := decide_eq_false finite.le.not_gt
    rw [display, number, unsigned, if_neg Bool.false_ne_true, if_neg Bool.false_ne_true, codeText,
      if_neg positive.ne', if_neg finite.not_ge, if_pos ⟨leastPositionalCode_le large, below⟩]

end Binary64

end LoxLexer.Number
