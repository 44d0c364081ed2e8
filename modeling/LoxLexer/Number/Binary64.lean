/-
# Doubles, decimals and numerals

A double is sixty-four bits: a sign and a magnitude code. The codes of finite
magnitudes ascend with the values that they stand for, and the code after the
last finite one is infinity. A finite code stands for a whole number of steps
of a power of two, so its value is an exact rational number, and the double
nearest to a rational number is found in exact arithmetic.

For rounding, the step is the finest one that a double of this size can have:
the least power of two, not below the step of the subnormal numbers, for which
the quotient takes at most fifty-three bits. A halfway case goes to the even
neighbour.

A decimal is a whole number of steps of a power of ten. A numeral is what stands
in a source text: digits, and perhaps a point and more digits. Both have exact
rational values. A numeral denotes the double nearest to its value, however many
digits it has.
-/

namespace LoxLexer.Number

/-- A double, by its encoding: one bit of sign, eleven bits of exponent and
fifty-two bits of fraction. -/
structure Binary64 where
  /-- The encoding, the sign in the highest bit. -/
  bits : UInt64
  deriving DecidableEq

/-! ## Magnitude codes -/

/-- The number of codes that share an exponent field, one more than the largest fraction. -/
def fractionCodes : Nat := 0x10000000000000

/-- The code of infinity. Finite magnitudes have smaller codes, what is not a
number has larger ones. -/
def infinityCode : Nat := 0x7FF0000000000000

/-- The exponent of the step of a finite code counted from the exponent of the
subnormal step. The two lowest exponent fields share that step. -/
def stepRank (code : Nat) : Nat := code / fractionCodes - 1

/-- The exponent of the step of the subnormal numbers. -/
def subnormalExponent : Int := -1074

/-- The number of steps in the value of a finite code. -/
def stepCount (code : Nat) : Nat := code - stepRank code * fractionCodes

/-- The exponent of two in the step of a finite code. -/
def stepExponent (code : Nat) : Int := stepRank code + subnormalExponent

/-- The exact value of a finite code. -/
def codeValue (code : Nat) : Rat := stepCount code * Rat.zpow 2 (stepExponent code)

/-! ## Rounding -/

/-- The integer nearest to a rational number; of two equally near ones the even one. -/
def roundHalfEven (value : Rat) : Int :=
  let low := value.floor
  let excess := value - low
  if excess < mkRat 1 2 then low
  else if mkRat 1 2 < excess then low + 1
  else if low % 2 = 0 then low
  else low + 1

/-- The exponent of the finest step at which a positive number takes at most
fifty-three bits, and not less than the subnormal exponent. The binary
logarithms of numerator and denominator give it or the exponent below it. -/
def finestExponent (value : Rat) : Int :=
  let estimate := max subnormalExponent (value.num.natAbs.log2 - value.den.log2 - 53)
  if value < Rat.zpow 2 (estimate + 53) then estimate else estimate + 1

/-- The code of the double nearest to a number that is not negative. -/
def nearestCode (value : Rat) : Nat :=
  if value ≤ 0 then 0
  else
    let exponent := finestExponent value
    let steps := roundHalfEven (value / Rat.zpow 2 exponent)
    min infinityCode ((exponent - subnormalExponent).toNat * fractionCodes + steps.toNat)

namespace Binary64

/-- The double without sign that has the given code. -/
def ofCode (code : Nat) : Binary64 := ⟨UInt64.ofNat code⟩

/-- The double nearest to a number that is not negative. Numbers too large for
every finite double give infinity. -/
def nearest (value : Rat) : Binary64 := ofCode (nearestCode value)

/-- The bit of the sign, as a number. -/
def signBit : Nat := 0x8000000000000000

/-- The code of the magnitude: the encoding without its sign. -/
def code (double : Binary64) : Nat := double.bits.toNat % signBit

/-- Is the sign set? -/
def isNegative (double : Binary64) : Bool := signBit ≤ double.bits.toNat

/-- Is this no number? -/
def isNaN (double : Binary64) : Bool := infinityCode < double.code

end Binary64

/-! ## Decimals and numerals -/

/-- The number `digits * 10 ^ exponent`. -/
structure Decimal where
  digits : Nat
  /-- The exponent of ten in the step. -/
  exponent : Int
  deriving DecidableEq

/-- The exact value of a decimal. -/
def Decimal.value (decimal : Decimal) : Rat := decimal.digits * Rat.zpow 10 decimal.exponent

/-- The digits of a number literal on both sides of its point. -/
structure Numeral where
  whole : List Char
  /-- The digits after the point; when there are none, no point is written. -/
  fraction : List Char
  deriving DecidableEq

namespace Numeral

/-- The numeral as it is written. -/
def text (numeral : Numeral) : List Char :=
  match numeral.fraction with
  | [] => numeral.whole
  | digit :: later => numeral.whole ++ '.' :: digit :: later

/-- Reads a numeral: digits, perhaps with a point before, among or after them. A
sign or an exponent is not read. -/
def ofText? (text : List Char) : Option Numeral :=
  let whole := text.takeWhile Char.isDigit
  match text.dropWhile Char.isDigit with
  | [] => if whole.isEmpty then none else some ⟨whole, []⟩
  | '.' :: fraction =>
    if fraction.all Char.isDigit && !(whole.isEmpty && fraction.isEmpty) then
      some ⟨whole, fraction⟩
    else none
  | _ => none

/-- All digits of the numeral as one number, and the power of ten that the point divides it by. -/
def decimal (numeral : Numeral) : Decimal where
  digits := Nat.ofDigitChars 10 (numeral.whole ++ numeral.fraction) 0
  exponent := -numeral.fraction.length

/-- The double that the numeral denotes. -/
def denotation (numeral : Numeral) : Binary64 := .nearest numeral.decimal.value

end Numeral

end LoxLexer.Number
