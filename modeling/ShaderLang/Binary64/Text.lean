import ShaderLang.Binary64.Decimal

/-!
# The text of a datum

Among the decimals that round to a given finite datum, the shortest is chosen, and of two equally
short ones the nearer.  The search runs through the decimal grids of 1 to 17 digits and tests the
two neighbours of the value on each grid by rounding them back.  The chosen decimal is written in
positional notation from `0.0001` up to below `10 ^ 16`, with at least one digit after the point,
and otherwise with an exponent.
-/

namespace ShaderLang

/-! ## The shortest decimal -/

namespace Binary64

/-- The exact value of a finite magnitude in units of the least positive value. -/
def exactNumerator (magnitude : Nat) : Nat :=
  significand magnitude * Nat.pow 2 (shift magnitude)

/-- One past the decimal exponent of the leading digit of `numerator / denominator`. -/
def decimalTop (numerator denominator : Nat) : Int :=
  if denominator ≤ numerator then
    Text.digitCount (numerator / denominator)
  else
    1 - (Text.digitCount ((denominator - 1) / numerator) : Int)

/-- The two neighbours of a finite magnitude among the multiples of `10 ^ exponent`, the nearer one
first.  Of two equally near ones the upper comes first. -/
def gridNeighbours (magnitude : Nat) (exponent : Int) : List Decimal :=
  let numerator := exactNumerator magnitude * Nat.pow 10 (-exponent).toNat
  let denominator := leastUnits * Nat.pow 10 exponent.toNat
  let lower := numerator / denominator
  if 2 * (numerator % denominator) < denominator then
    [⟨lower, exponent⟩, ⟨lower + 1, exponent⟩]
  else
    [⟨lower + 1, exponent⟩, ⟨lower, exponent⟩]

/-- The neighbours of a finite magnitude on the decimal grids of 1 to 17 digits, in order. -/
def shortCandidates (magnitude : Nat) : List Decimal :=
  let top := decimalTop (exactNumerator magnitude) leastUnits
  (List.range 17).flatMap fun index => gridNeighbours magnitude (top - (index + 1 : Nat))

/-- The exact decimal value of a finite magnitude. -/
def exactDecimal (magnitude : Nat) : Decimal :=
  ⟨exactNumerator magnitude * Nat.pow 5 1074, -1074⟩

/-- The shortest decimal that rounds to a finite magnitude. -/
def shortestDecimal (magnitude : Nat) : Decimal :=
  ((shortCandidates magnitude).find? fun decimal => decimal.magnitude == magnitude).getD
    (exactDecimal magnitude)

end Binary64

/-! ## Notation -/

namespace Decimal

/-- The digits of a decimal without trailing zeros. -/
def significantDigits (decimal : Decimal) : List Char :=
  ((Text.digits decimal.digits).reverse.dropWhile (· == '0')).reverse

/-- Positional notation of the digits `run` behind a point that is moved `top` places to the
right. -/
def positional (run : List Char) (top : Int) : List Char :=
  if top ≤ 0 then
    ['0', '.'] ++ List.replicate (-top).toNat '0' ++ run
  else if top < run.length then
    run.take top.toNat ++ '.' :: run.drop top.toNat
  else
    run ++ List.replicate (top.toNat - run.length) '0' ++ ['.', '0']

/-- The digits `run` with a point behind the first, unless it is alone, and an exponent. -/
def scientific (run : List Char) (top : Int) : List Char :=
  run.take 1 ++ (if 1 < run.length then '.' :: run.drop 1 else []) ++
    'e' :: Text.signedDigits (top - 1)

/-- The text of a decimal that is not zero.  Positional notation serves from `0.0001` up to below
`10 ^ 16`. -/
def text (decimal : Decimal) : List Char :=
  if -3 ≤ decimal.top ∧ decimal.top ≤ 16 then
    positional decimal.significantDigits decimal.top
  else
    scientific decimal.significantDigits decimal.top

end Decimal

namespace Binary64

/-- The text of a magnitude up to infinity. -/
def magnitudeText (magnitude : Nat) : List Char :=
  if magnitude = 0 then
    ['0', '.', '0']
  else if magnitude = infiniteMagnitude then
    ['i', 'n', 'f']
  else
    (shortestDecimal magnitude).text

/-- The text of a datum.  What is no number has no sign. -/
def text (datum : Binary64) : List Char :=
  if datum.isNaN then
    ['N', 'a', 'N']
  else if datum.negative then
    '-' :: magnitudeText datum.magnitude
  else
    magnitudeText datum.magnitude

end Binary64

end ShaderLang
