/-
# How numbers are displayed

Many decimals read back as one double. The shortest of them lies on the coarsest
grid of powers of ten that has any. If some point of a grid reads back, then one
of the two points around the double does, since what reads back is an interval
around the double. Of these two the nearer one is taken, and halfway between
them the upper one.

A double is displayed by its shortest digits. Zero and magnitudes from one
ten-thousandth to just below ten to the sixteenth are written positionally, with
at least one digit on each side of the point. All others have an exponent, which has no
plus sign and no padding, after one digit and a point that is left out when no
digit follows it. What is not a number has no sign.
-/

import LoxLexer.Number.Binary64

namespace LoxLexer.Number

/-- The two points around a value on the grid of a power of ten, the preferred one first. -/
def gridNeighbours (value : Rat) (exponent : Int) : List Decimal :=
  let scaled := value / Rat.zpow 10 exponent
  let low : Decimal := ⟨scaled.floor.toNat, exponent⟩
  let high : Decimal := ⟨scaled.floor.toNat + 1, exponent⟩
  if scaled - scaled.floor < mkRat 1 2 then [low, high] else [high, low]

/-- An exponent of ten such that the power is at least the value and at most ten times as large. -/
def coarsestExponent (value : Rat) : Int :=
  if 1 ≤ value then (Nat.toDigits 10 value.floor.toNat).length
  else 1 - (Nat.toDigits 10 value.inv.floor.toNat).length

/-- The value of a finite code as a decimal, exactly. -/
def exactDecimal (code : Nat) : Decimal :=
  let exponent := stepExponent code
  if 0 ≤ exponent then ⟨stepCount code * Nat.pow 2 exponent.toNat, 0⟩
  else ⟨stepCount code * Nat.pow 5 (-exponent).toNat, exponent⟩

/-- Does the decimal read back as the double with this code? -/
def readsBackAs (code : Nat) (decimal : Decimal) : Bool := nearestCode decimal.value = code

/-- The shortest decimal that reads back as the double with this code, for codes
of finite magnitudes other than zero. Eighteen grids are tried from the coarsest
on, which is one more than a double ever needs; beyond them stands the exact
value. -/
def shortestDecimal (code : Nat) : Decimal :=
  let value := codeValue code
  let grids := (List.range 18).map fun (step : Nat) => coarsestExponent value - step
  let found := grids.findSome? fun exponent =>
    (gridNeighbours value exponent).find? (readsBackAs code)
  found.getD (exactDecimal code)

/-! ## Notations -/

/-- An integer in decimal digits, with a minus sign if it is negative. -/
def integerText (value : Int) : List Char :=
  if value < 0 then '-' :: Nat.toDigits 10 value.natAbs else Nat.toDigits 10 value.natAbs

/-- A decimal in positional notation, with at least one digit on each side of the point. -/
def Decimal.positional (decimal : Decimal) : Numeral :=
  let digits := Nat.toDigits 10 decimal.digits
  if 0 ≤ decimal.exponent then ⟨digits ++ List.replicate decimal.exponent.toNat '0', ['0']⟩
  else
    let places := decimal.exponent.natAbs
    if places < digits.length then
      ⟨digits.take (digits.length - places), digits.drop (digits.length - places)⟩
    else
      ⟨['0'], List.replicate (places - digits.length) '0' ++ digits⟩

/-- A decimal in exponent notation. -/
def Decimal.scientific (decimal : Decimal) : List Char :=
  let digits := Nat.toDigits 10 decimal.digits
  let leading : Numeral := ⟨digits.take 1, digits.drop 1⟩
  leading.text ++ 'e' :: integerText (decimal.exponent + digits.length - 1)

namespace Binary64

/-- The code of the least magnitude, zero apart, that is written positionally. -/
def leastPositionalCode : Nat := nearestCode (mkRat 1 10000)

/-- The code of the least large magnitude that is written with an exponent. -/
def leastScientificCode : Nat := nearestCode (mkRat 10000000000000000 1)

/-- The display of the magnitude with the given code. -/
def codeText (code : Nat) : List Char :=
  if code = 0 then ['0', '.', '0']
  else if infinityCode ≤ code then ['i', 'n', 'f']
  else if leastPositionalCode ≤ code ∧ code < leastScientificCode then
    (shortestDecimal code).positional.text
  else (shortestDecimal code).scientific

/-- The display of a double. -/
def display (double : Binary64) : String :=
  if double.isNaN then "NaN"
  else if double.isNegative then String.ofList ('-' :: codeText double.code)
  else String.ofList (codeText double.code)

end Binary64

end LoxLexer.Number
