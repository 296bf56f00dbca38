/-!
# Binary floating point data

A binary64 datum is a sign and a magnitude, the 63 bits below the sign bit.  Magnitudes are ordered
like the absolute values they stand for: the finite ones come first, then infinity, then the data
that are no numbers.
-/

namespace ShaderLang

/-- One past the largest 63-bit magnitude, and the weight of the sign bit. -/
def Binary64.magnitudeLimit : Nat :=
  Nat.pow 2 63

/-- A 64-bit floating point datum: its sign and the 63 bits below the sign bit. -/
structure Binary64 where
  negative : Bool
  magnitude : Nat
  magnitude_lt : magnitude < Binary64.magnitudeLimit
  deriving DecidableEq

namespace Binary64

/-- The number of magnitudes with one exponent: 52 bits hold the fraction. -/
def fractionLimit : Nat :=
  Nat.pow 2 52

/-- The number of times that the least positive value goes into one. -/
def leastUnits : Nat :=
  Nat.pow 2 1074

/-- The magnitude of infinity, one past the largest finite magnitude. -/
def infiniteMagnitude : Nat :=
  2047 * fractionLimit

theorem infiniteMagnitude_lt : infiniteMagnitude < magnitudeLimit := by
  decide

/-- The datum of a 64-bit pattern. -/
def ofBits (bits : UInt64) : Binary64 where
  negative := magnitudeLimit ≤ bits.toNat
  magnitude := bits.toNat % magnitudeLimit
  magnitude_lt := Nat.mod_lt _ (by decide)

/-- The 64-bit pattern of a datum. -/
def toBits (datum : Binary64) : UInt64 :=
  UInt64.ofNat ((if datum.negative then magnitudeLimit else 0) + datum.magnitude)

/-- Whether a datum is a finite number. -/
def isFinite (datum : Binary64) : Bool :=
  datum.magnitude < infiniteMagnitude

/-- Whether a datum is no number. -/
def isNaN (datum : Binary64) : Bool :=
  infiniteMagnitude < datum.magnitude

/-- The binary exponent of a magnitude, counted from that of the least positive value. -/
def shift (magnitude : Nat) : Nat :=
  magnitude / fractionLimit - 1

/-- The integer significand of a magnitude.  A finite magnitude `m` stands for
`significand m * 2 ^ shift m` times the least positive value. -/
def significand (magnitude : Nat) : Nat :=
  if magnitude < fractionLimit then magnitude else fractionLimit + magnitude % fractionLimit

end Binary64

end ShaderLang
