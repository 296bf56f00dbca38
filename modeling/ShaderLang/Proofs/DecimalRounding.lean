import Mathlib.Algebra.Group.Nat.Defs
import ShaderLang.Binary64.Text

/-!
# Decimals that round to a datum

Rounding a decimal depends on its value only, not on how the value is split into digits and an
exponent.  A finite magnitude is what its exact decimal rounds to, so the search for the shortest
decimal always ends with one that rounds back.
-/

namespace ShaderLang

/-! ## Digits -/

namespace Text

theorem digits_mul_ten {value : Nat} (positive : 0 < value) :
    digits (10 * value) = digits value ++ ['0'] :=
  (Nat.toDigits_append_toDigits (by decide) positive (by decide : 0 < 10)).symm

/-- Zeros behind the digits of a natural multiply it by a power of ten. -/
theorem digits_mul_pow {value : Nat} (positive : 0 < value) (places : Nat) :
    digits (value * 10 ^ places) = digits value ++ List.replicate places '0' := by
  induction places with
  | zero => simp
  | succ places inductionHypothesis =>
      have larger : 0 < value * 10 ^ places := Nat.mul_pos positive (Nat.pow_pos (by decide))
      have next : value * 10 ^ (places + 1) = 10 * (value * 10 ^ places) := by
        rw [Nat.pow_succ, ← Nat.mul_assoc, Nat.mul_comm]
      rw [next, digits_mul_ten larger, inductionHypothesis, List.append_assoc,
        ← List.replicate_succ']

theorem digitCount_mul_pow {value : Nat} (positive : 0 < value) (places : Nat) :
    digitCount (value * 10 ^ places) = digitCount value + places := by
  unfold digitCount
  rw [digits_mul_pow positive, List.length_append, List.length_replicate]

end Text

/-! ## Rounding a quotient -/

namespace Binary64

theorem divHalfEven_mul_right (numerator denominator : Nat) {factor : Nat}
    (positive : 0 < factor) :
    divHalfEven (numerator * factor) (denominator * factor) =
      divHalfEven numerator denominator := by
  have below : 2 * (numerator % denominator * factor) < denominator * factor ↔
      2 * (numerator % denominator) < denominator := by
    rw [← Nat.mul_assoc]
    exact Nat.mul_lt_mul_right positive
  have above : denominator * factor < 2 * (numerator % denominator * factor) ↔
      denominator < 2 * (numerator % denominator) := by
    rw [← Nat.mul_assoc]
    exact Nat.mul_lt_mul_right positive
  simp only [divHalfEven, Nat.mul_div_mul_right _ _ positive, Nat.mul_mod_mul_right, below, above]

/-- A quotient without remainder is not changed by rounding. -/
theorem divHalfEven_mul_self (quotient : Nat) {denominator : Nat} (positive : 0 < denominator) :
    divHalfEven (quotient * denominator) denominator = quotient := by
  simp [divHalfEven, Nat.mul_div_cancel _ positive, positive]

/-- The nearest magnitude depends on the value of a quotient only. -/
theorem nearestMagnitude_mul_right (numerator denominator : Nat) {factor : Nat}
    (positive : 0 < factor) :
    nearestMagnitude (numerator * factor) (denominator * factor) =
      nearestMagnitude numerator denominator := by
  have scaled : numerator * factor * leastUnits = numerator * leastUnits * factor :=
    Nat.mul_right_comm _ _ _
  have grid : ∀ power : Nat, denominator * factor * power = denominator * power * factor :=
    fun power => Nat.mul_right_comm _ _ _
  simp only [nearestMagnitude, scaled, grid, Nat.mul_div_mul_right _ _ positive,
    divHalfEven_mul_right _ _ positive]

/-- A value that is a multiple of the least positive one by a significand and a power of two. -/
theorem nearestMagnitude_of_units {numerator denominator units : Nat} (positive : 0 < denominator)
    (value : numerator * leastUnits = units * denominator) :
    nearestMagnitude numerator denominator =
      let power := units.log2 - 52
      let rounded := power * fractionLimit + divHalfEven units (Nat.pow 2 power)
      if rounded < infiniteMagnitude then rounded else infiniteMagnitude := by
  have grid : ∀ power : Nat, denominator * power = power * denominator :=
    fun power => Nat.mul_comm _ _
  simp only [nearestMagnitude, value, Nat.mul_div_cancel _ positive, grid,
    divHalfEven_mul_right _ _ positive]

end Binary64

/-! ## Rounding a decimal -/

namespace Decimal

theorem top_scaled {digits : Nat} (positive : 0 < digits) (exponent : Int) (places : Nat) :
    (Decimal.mk (digits * 10 ^ places) exponent).top =
      (Decimal.mk digits (exponent + places)).top := by
  simp only [top, Text.digitCount_mul_pow positive]
  omega

/-- The nearest magnitude of a decimal, however small or large it is. -/
def nearest (decimal : Decimal) : Nat :=
  if 0 ≤ decimal.exponent then
    Binary64.nearestMagnitude (decimal.digits * Nat.pow 10 decimal.exponent.toNat) 1
  else
    Binary64.nearestMagnitude decimal.digits (Nat.pow 10 (-decimal.exponent).toNat)

theorem nearest_scaled (digits : Nat) (exponent : Int) (places : Nat) :
    (Decimal.mk (digits * 10 ^ places) exponent).nearest =
      (Decimal.mk digits (exponent + places)).nearest := by
  simp only [nearest, Nat.pow_eq]
  by_cases whole : 0 ≤ exponent
  · have power : (exponent + places).toNat = places + exponent.toNat := by omega
    rw [if_pos whole, if_pos (by omega), power, Nat.pow_add, Nat.mul_assoc]
  rw [if_neg whole]
  by_cases scaledWhole : 0 ≤ exponent + places
  · have power : places = (exponent + places).toNat + (-exponent).toNat := by omega
    rw [if_pos scaledWhole]
    calc Binary64.nearestMagnitude (digits * 10 ^ places) (10 ^ (-exponent).toNat)
        = Binary64.nearestMagnitude
            (digits * 10 ^ (exponent + places).toNat * 10 ^ (-exponent).toNat)
            (1 * 10 ^ (-exponent).toNat) := by
          rw [Nat.one_mul, Nat.mul_assoc, ← Nat.pow_add, ← power]
      _ = Binary64.nearestMagnitude (digits * 10 ^ (exponent + places).toNat) 1 :=
          Binary64.nearestMagnitude_mul_right _ _ (Nat.pow_pos (by decide))
  · have power : (-exponent).toNat = (-(exponent + places)).toNat + places := by omega
    rw [if_neg scaledWhole, power, Nat.pow_add]
    exact Binary64.nearestMagnitude_mul_right _ _ (Nat.pow_pos (by decide))

/-- The magnitude of a decimal depends on its value only. -/
theorem magnitude_scaled (digits : Nat) (exponent : Int) (places : Nat) :
    (Decimal.mk (digits * 10 ^ places) exponent).magnitude =
      (Decimal.mk digits (exponent + places)).magnitude := by
  rcases Nat.eq_zero_or_pos digits with rfl | positive
  · simp [magnitude]
  have scaledPositive : digits * 10 ^ places ≠ 0 :=
    Nat.mul_ne_zero (Nat.ne_of_gt positive) (Nat.ne_of_gt (Nat.pow_pos (by decide)))
  have sameNearest := nearest_scaled digits exponent places
  unfold nearest at sameNearest
  unfold magnitude
  rw [top_scaled positive, if_neg scaledPositive, if_neg (Nat.ne_of_gt positive), sameNearest]

theorem magnitude_of_zero {decimal : Decimal} (zero : decimal.digits = 0) :
    decimal.magnitude = 0 :=
  if_pos zero

end Decimal

/-! ## The exact decimal of a magnitude -/

namespace Binary64

theorem exactNumerator_of_lt {magnitude : Nat} (small : magnitude < fractionLimit) :
    exactNumerator magnitude = magnitude := by
  have noShift : shift magnitude = 0 := by
    rw [shift, Nat.div_eq_of_lt small]
  rw [exactNumerator, noShift, significand, if_pos small]
  exact Nat.mul_one magnitude

theorem significand_bounds {magnitude : Nat} (normal : fractionLimit ≤ magnitude) :
    2 ^ 52 ≤ significand magnitude ∧ significand magnitude < 2 ^ 53 := by
  have below : magnitude % fractionLimit < 2 ^ 52 := Nat.mod_lt _ (Nat.two_pow_pos 52)
  have unit : fractionLimit = 2 ^ 52 := rfl
  rw [significand, if_neg (Nat.not_lt.mpr normal)]
  omega

theorem log2_exactNumerator {magnitude : Nat} (normal : fractionLimit ≤ magnitude) :
    (exactNumerator magnitude).log2 = 52 + shift magnitude := by
  obtain ⟨atLeast, below⟩ := significand_bounds normal
  have power : 0 < 2 ^ shift magnitude := Nat.two_pow_pos _
  have positive : exactNumerator magnitude ≠ 0 :=
    Nat.mul_ne_zero (Nat.ne_of_gt (Nat.lt_of_lt_of_le (Nat.two_pow_pos 52) atLeast))
      (Nat.ne_of_gt power)
  rw [Nat.log2_eq_iff positive, Nat.pow_add, Nat.add_right_comm, Nat.pow_add]
  exact ⟨Nat.mul_le_mul_right _ atLeast, Nat.mul_lt_mul_of_pos_right below power⟩

/-- The shift and the significand of a magnitude make up the magnitude. -/
theorem shift_add_significand {magnitude : Nat} (normal : fractionLimit ≤ magnitude) :
    shift magnitude * fractionLimit + significand magnitude = magnitude := by
  have parts := Nat.div_add_mod magnitude fractionLimit
  have quotient : 1 ≤ magnitude / fractionLimit :=
    (Nat.one_le_div_iff (Nat.two_pow_pos 52)).mpr normal
  obtain ⟨earlier, next⟩ : ∃ earlier, magnitude / fractionLimit = earlier + 1 :=
    ⟨_, (Nat.sub_add_cancel quotient).symm⟩
  rw [next, Nat.mul_comm, Nat.succ_mul] at parts
  rw [shift, next, Nat.add_sub_cancel, significand, if_neg (Nat.not_lt.mpr normal),
    ← Nat.add_assoc]
  exact parts

/-- Rounding the exact value of a magnitude in units of its last place gives the magnitude. -/
theorem rounded_exactNumerator (magnitude : Nat) :
    ((exactNumerator magnitude).log2 - 52) * fractionLimit +
      divHalfEven (exactNumerator magnitude) (Nat.pow 2 ((exactNumerator magnitude).log2 - 52)) =
        magnitude := by
  by_cases small : magnitude < fractionLimit
  · have noPower : (exactNumerator magnitude).log2 - 52 = 0 := by
      rw [exactNumerator_of_lt small]
      rcases Nat.eq_zero_or_pos magnitude with rfl | positive
      · rfl
      · have below : magnitude.log2 < 52 := (Nat.log2_lt (Nat.ne_of_gt positive)).mpr small
        omega
    have whole := divHalfEven_mul_self magnitude Nat.one_pos
    rw [Nat.mul_one] at whole
    rw [noPower, Nat.zero_mul, Nat.zero_add, exactNumerator_of_lt small]
    exact whole
  · have normal := Nat.not_lt.mp small
    rw [log2_exactNumerator normal, Nat.add_sub_cancel_left, exactNumerator, Nat.pow_eq,
      divHalfEven_mul_self _ (Nat.two_pow_pos _)]
    exact shift_add_significand normal

theorem exactNumerator_pos {magnitude : Nat} (positive : 0 < magnitude) :
    0 < exactNumerator magnitude := by
  by_cases small : magnitude < fractionLimit
  · rw [exactNumerator_of_lt small]
    exact positive
  · have atLeast := (significand_bounds (Nat.not_lt.mp small)).1
    exact Nat.mul_pos (Nat.lt_of_lt_of_le (Nat.two_pow_pos 52) atLeast) (Nat.two_pow_pos _)

theorem exactNumerator_lt {magnitude : Nat} (finite : magnitude < infiniteMagnitude) :
    exactNumerator magnitude < 2 ^ 2098 := by
  by_cases small : magnitude < fractionLimit
  · have wider : 2 ^ 52 ≤ 2 ^ 2098 := by decide +kernel
    rw [exactNumerator_of_lt small]
    exact Nat.lt_of_lt_of_le small wider
  · have below := (significand_bounds (Nat.not_lt.mp small)).2
    have quotient : magnitude / fractionLimit < 2047 :=
      (Nat.div_lt_iff_lt_mul (Nat.two_pow_pos 52)).mpr finite
    have shifted : shift magnitude ≤ 2045 := by
      rw [shift]
      omega
    calc exactNumerator magnitude
        < 2 ^ 53 * 2 ^ shift magnitude := Nat.mul_lt_mul_of_pos_right below (Nat.two_pow_pos _)
      _ ≤ 2 ^ 53 * 2 ^ 2045 :=
          Nat.mul_le_mul_left _ (Nat.pow_le_pow_right (by decide) shifted)
      _ = 2 ^ 2098 := by decide +kernel

/-- The exact decimal of a finite magnitude lies where rounding forms its powers. -/
theorem top_exactDecimal {magnitude : Nat} (positive : 0 < magnitude)
    (finite : magnitude < infiniteMagnitude) :
    -330 ≤ (exactDecimal magnitude).top ∧ (exactDecimal magnitude).top ≤ 310 := by
  have fives : 0 < Nat.pow 5 1074 := by decide +kernel
  have atMost : Text.digitCount (exactDecimal magnitude).digits ≤ 1384 := by
    refine (Nat.length_toDigits_le_iff (by decide) (by decide)).mpr ?_
    refine Nat.lt_of_lt_of_le (Nat.mul_lt_mul_of_pos_right (exactNumerator_lt finite) fives) ?_
    decide +kernel
  have atLeast : ¬ Text.digitCount (exactDecimal magnitude).digits ≤ 743 := by
    intro fewer
    have small := (Nat.length_toDigits_le_iff (by decide) (by decide)).mp fewer
    have large : Nat.pow 5 1074 ≤ (exactDecimal magnitude).digits :=
      Nat.le_mul_of_pos_left _ (exactNumerator_pos positive)
    exact absurd (Nat.lt_of_le_of_lt large small) (by decide +kernel)
  have top : (exactDecimal magnitude).top =
      -1074 + (Text.digitCount (exactDecimal magnitude).digits : Int) := rfl
  omega

/-- A multiple of the least positive value is rounded without a change of its value, if the value
is written over a power of ten. -/
theorem nearest_exact {magnitude fives tens : Nat} (positive : 0 < tens)
    (split : fives * leastUnits = tens) (finite : magnitude < infiniteMagnitude) :
    nearestMagnitude (exactNumerator magnitude * fives) tens = magnitude := by
  have value : exactNumerator magnitude * fives * leastUnits =
      exactNumerator magnitude * tens := by
    rw [Nat.mul_assoc, split]
  rw [nearestMagnitude_of_units positive value]
  dsimp only
  rw [rounded_exactNumerator, if_pos finite]

/-- A finite magnitude is what its exact decimal rounds to. -/
theorem magnitude_exactDecimal {magnitude : Nat} (positive : 0 < magnitude)
    (finite : magnitude < infiniteMagnitude) :
    (exactDecimal magnitude).magnitude = magnitude := by
  obtain ⟨atLeast, atMost⟩ := top_exactDecimal positive finite
  have fives : Nat.pow 5 1074 ≠ 0 := by decide +kernel
  have nonzero : (exactDecimal magnitude).digits ≠ 0 :=
    Nat.mul_ne_zero (Nat.ne_of_gt (exactNumerator_pos positive)) fives
  have exponent : (exactDecimal magnitude).exponent = -1074 := rfl
  have tens : 0 < Nat.pow 10 (- -1074 : Int).toNat := by decide +kernel
  have split : Nat.pow 5 1074 * leastUnits = Nat.pow 10 (- -1074 : Int).toNat := by
    decide +kernel
  unfold Decimal.magnitude
  rw [if_neg nonzero, if_neg (Int.not_lt.mpr atMost), if_neg (Int.not_lt.mpr atLeast), exponent,
    if_neg (by decide)]
  exact nearest_exact tens split finite

/-- The shortest decimal of a finite magnitude rounds to the magnitude. -/
theorem magnitude_shortestDecimal {magnitude : Nat} (positive : 0 < magnitude)
    (finite : magnitude < infiniteMagnitude) :
    (shortestDecimal magnitude).magnitude = magnitude := by
  unfold shortestDecimal
  cases search : (shortCandidates magnitude).find?
      (fun decimal => decimal.magnitude == magnitude) with
  | none => exact magnitude_exactDecimal positive finite
  | some decimal =>
      have rounds := List.find?_some search
      exact beq_iff_eq.mp rounds

end Binary64

end ShaderLang
