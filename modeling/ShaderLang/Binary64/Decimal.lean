import ShaderLang.Binary64.Basic
import ShaderLang.Text.Basic

/-!
# Rounding a decimal

A decimal `digits * 10 ^ exponent` is rounded to the nearest binary64 datum, a tie going to the
even neighbour and a value past the largest finite one to infinity.  All arithmetic is exact.
-/

namespace ShaderLang

/-- The number `digits * 10 ^ exponent`. -/
structure Decimal where
  digits : Nat
  exponent : Int
  deriving DecidableEq, Repr

namespace Binary64

/-- The quotient rounded to the nearest natural, a tie to the even one. -/
def divHalfEven (numerator denominator : Nat) : Nat :=
  let quotient := numerator / denominator
  let remainder := numerator % denominator
  if 2 * remainder < denominator then
    quotient
  else if denominator < 2 * remainder then
    quotient + 1
  else
    quotient + quotient % 2

/-- The magnitude nearest to `numerator / denominator`.

In units of the last place of the result the value is rounded to a natural of at most 53 bits.
Added to as many times `2 ^ 52` as the shift says, it gives the magnitude, and a carry into a 54th
bit is a carry into the exponent. -/
def nearestMagnitude (numerator denominator : Nat) : Nat :=
  let scaled := numerator * leastUnits
  let power := (scaled / denominator).log2 - 52
  let rounded := power * fractionLimit + divHalfEven scaled (denominator * Nat.pow 2 power)
  if rounded < infiniteMagnitude then rounded else infiniteMagnitude

theorem nearestMagnitude_le (numerator denominator : Nat) :
    nearestMagnitude numerator denominator ≤ infiniteMagnitude := by
  simp only [nearestMagnitude]
  split
  · exact Nat.le_of_lt ‹_›
  · exact Nat.le_refl _

end Binary64

namespace Decimal

/-- One past the decimal exponent of the leading digit: a decimal that is not zero lies between
`10 ^ (top - 1)` and `10 ^ top`. -/
def top (decimal : Decimal) : Int :=
  decimal.exponent + Text.digitCount decimal.digits

/-- The magnitude nearest to a decimal.

A leading digit beyond `10 ^ 310` or below `10 ^ -330` decides the answer without forming a
power. -/
def magnitude (decimal : Decimal) : Nat :=
  if decimal.digits = 0 then
    0
  else if 310 < decimal.top then
    Binary64.infiniteMagnitude
  else if decimal.top < -330 then
    0
  else if 0 ≤ decimal.exponent then
    Binary64.nearestMagnitude (decimal.digits * Nat.pow 10 decimal.exponent.toNat) 1
  else
    Binary64.nearestMagnitude decimal.digits (Nat.pow 10 (-decimal.exponent).toNat)

theorem magnitude_le (decimal : Decimal) : decimal.magnitude ≤ Binary64.infiniteMagnitude := by
  rw [magnitude]
  split
  · exact Nat.zero_le _
  split
  · exact Nat.le_refl _
  split
  · exact Nat.zero_le _
  split <;> exact Binary64.nearestMagnitude_le _ _

end Decimal

namespace Binary64

/-- The datum nearest to a decimal with the given sign. -/
def ofDecimal (negative : Bool) (decimal : Decimal) : Binary64 where
  negative := negative
  magnitude := decimal.magnitude
  magnitude_lt := Nat.lt_of_le_of_lt decimal.magnitude_le infiniteMagnitude_lt

end Binary64

end ShaderLang
