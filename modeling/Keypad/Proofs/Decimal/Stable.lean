import Keypad.Proofs.Decimal.Closest

/-!
Significant digits that are read again.

A number that is written with seven significant digits and read again is not the same
number, but it is written with the same digits.  It is no farther from the decimal than
the number that was written, so it rounds to the same multiple of the last place.  That
place is another one only where the decimal is a power of ten, and the number that is
read lies on the other side of it: above it the places are coarser, and below it they
are finer, but no finer than twice the error of reading.  There is one power of ten that
is read with a larger error in front of such a place; it is read as a number above it.

Owns:
- how a number is written that is rounded to some digits in front of any exponent;
- the error of powers of ten that are read;
- the digits of a number that is read again, and its range.

Does not own: the texts of decimals.

Main statement: `toSignificant_readQuanta`.
-/

namespace Keypad.Binary64

/-! ## Digits in front of an exponent -/

section Digits

variable {quanta : ℕ} {exponent : ℤ}

/-- There is one power of ten that the first digit stands for. -/
theorem leadingExponent_unique
    (positive : 0 < quanta)
    (lower : (10 : ℚ) ^ exponent ≤ quanta / quantaPerUnit)
    (upper : (quanta : ℚ) / quantaPerUnit < 10 ^ (exponent + 1)) :
    leadingExponent quanta = exponent := by
  obtain ⟨ownLower, ownUpper⟩ := leadingExponent_bounds positive
  have atLeast := (zpow_lt_zpow_iff_right₀ (by norm_num)).mp (lower.trans_lt ownUpper)
  have atMost := (zpow_lt_zpow_iff_right₀ (by norm_num)).mp (ownLower.trans_lt upper)
  omega

/-- The significant digits of a number are those in front of the exponent where there
are as many of them as are asked for. -/
theorem toSignificant_of_rounds
    {further whole : ℕ}
    (negative : Bool)
    (lower : 10 ^ further ≤ (quanta : ℚ) / quantaPerUnit / 10 ^ exponent)
    (upper : (quanta : ℚ) / quantaPerUnit / 10 ^ exponent < 10 ^ (further + 1))
    (rounds : RoundsTo (quanta / quantaPerUnit / 10 ^ exponent) whole) :
    toSignificant further negative quanta =
      if whole < 10 ^ (further + 1) then ⟨negative, whole, exponent⟩
      else ⟨negative, 10 ^ further, exponent + 1⟩ := by
  have power : (0 : ℚ) < 10 ^ exponent := zpow_pos (by norm_num) _
  have positive : 0 < quanta := by
    apply Nat.pos_of_ne_zero
    rintro rfl
    rw [Nat.cast_zero, zero_div, zero_div] at lower
    exact absurd lower (not_le_of_gt (by positivity))
  rw [le_div_iff₀ power, ← zpow_natCast, ← zpow_add₀ (by norm_num)] at lower
  rw [div_lt_iff₀ power, ← zpow_natCast, ← zpow_add₀ (by norm_num), Nat.cast_succ,
    add_right_comm] at upper
  have leading := leadingExponent_unique positive lower upper
  have sameMultiple := (roundsTo_multiplesOf exponent quanta).unique rounds
  simp only [toSignificant, leading, add_sub_cancel_left, sameMultiple]

/-- What goes to the power of ten behind all digits is written as that power, from
whichever side of it. -/
private theorem toSignificant_of_rounds_power
    {further : ℕ}
    (negative : Bool)
    (rounds : RoundsTo (quanta / quantaPerUnit / 10 ^ exponent) (10 ^ (further + 1))) :
    toSignificant further negative quanta = ⟨negative, 10 ^ further, exponent + 1⟩ := by
  have near := abs_le.mp rounds.near
  have atLeastOne : (1 : ℚ) ≤ 10 ^ further := one_le_pow₀ (by norm_num)
  rw [Nat.cast_pow, Nat.cast_ofNat] at near
  rcases lt_or_ge ((quanta : ℚ) / quantaPerUnit / 10 ^ exponent) (10 ^ (further + 1)) with
    below | above
  · have lower : 10 ^ further ≤ (quanta : ℚ) / quantaPerUnit / 10 ^ exponent := by
      rw [pow_succ] at near
      linarith
    rw [toSignificant_of_rounds negative lower below rounds, if_neg (Nat.lt_irrefl _)]
  · -- The last place is the one in front, where there is only a tenth of the distance.
    have tenth : (quanta : ℚ) / quantaPerUnit / 10 ^ (exponent + 1) =
        quanta / quantaPerUnit / 10 ^ exponent / 10 := by
      rw [zpow_add_one₀ (by norm_num), div_mul_eq_div_div]
    rw [pow_succ] at near above
    have lower : 10 ^ further ≤ (quanta : ℚ) / quantaPerUnit / 10 ^ (exponent + 1) := by
      rw [tenth, le_div_iff₀ (by norm_num)]
      exact above
    have upper : (quanta : ℚ) / quantaPerUnit / 10 ^ (exponent + 1) < 10 ^ (further + 1) := by
      rw [tenth, div_lt_iff₀ (by norm_num), pow_succ]
      linarith
    have roundsInFront : RoundsTo (quanta / quantaPerUnit / 10 ^ (exponent + 1))
        (10 ^ further) := by
      apply RoundsTo.of_lt
      rw [tenth, Nat.cast_pow, Nat.cast_ofNat]
      exact abs_lt.mpr ⟨by linarith, by linarith⟩
    rw [toSignificant_of_rounds negative lower upper roundsInFront,
      if_pos (Nat.pow_lt_pow_right (by decide) (Nat.lt_succ_self further))]

/-- Different counts that round to the same multiple are a quantum apart at least, and a
unit of the last place at most. -/
private theorem one_le_place
    {count whole : ℕ}
    (rounds : RoundsTo (quanta / quantaPerUnit / 10 ^ exponent) whole)
    (otherRounds : RoundsTo (count / quantaPerUnit / 10 ^ exponent) whole)
    (ordered : quanta < count) :
    1 ≤ (10 : ℚ) ^ exponent * quantaPerUnit := by
  have unit : (0 : ℚ) < quantaPerUnit := by exact_mod_cast quantaPerUnit_pos
  have power : (0 : ℚ) < 10 ^ exponent := zpow_pos (by norm_num) _
  have apart : (quanta : ℚ) + 1 ≤ count := by exact_mod_cast ordered
  have lower := (abs_le.mp rounds.near).1
  have upper := (abs_le.mp otherRounds.near).2
  rw [le_sub_iff_add_le, le_div_iff₀ power, le_div_iff₀ unit] at lower
  rw [sub_le_iff_le_add, div_le_iff₀ power, div_le_iff₀ unit] at upper
  linarith

end Digits

/-! ## A power of ten that is read -/

/-- Of the powers of ten that are smaller than the reciprocal of a unit, but no smaller
than a tenth of it, there is one. -/
private theorem exponent_of_finer
    {unit fewer : ℕ}
    {exponent : ℤ}
    (lower : 10 ^ fewer ≤ unit)
    (upper : unit < 10 ^ (fewer + 1))
    (coarse : 1 ≤ (10 : ℚ) ^ (exponent + 1) * unit)
    (fine : (10 : ℚ) ^ exponent * unit < 1) :
    exponent = -(fewer + 1 : ℤ) := by
  have lowerRational : (10 : ℚ) ^ (fewer : ℤ) ≤ unit := by
    rw [zpow_natCast]
    exact_mod_cast lower
  have upperRational : (unit : ℚ) < 10 ^ (fewer + 1 : ℤ) := by
    rw [← Nat.cast_succ, zpow_natCast]
    exact_mod_cast upper
  have above : (10 : ℚ) ^ (0 : ℤ) < 10 ^ (exponent + 1 + (fewer + 1)) := by
    rw [zpow_add₀ (by norm_num) (exponent + 1), zpow_zero]
    exact coarse.trans_lt (mul_lt_mul_of_pos_left upperRational (zpow_pos (by norm_num) _))
  have below : (10 : ℚ) ^ (exponent + fewer) < 10 ^ (0 : ℤ) := by
    rw [zpow_add₀ (by norm_num) exponent, zpow_zero]
    exact (mul_le_mul_of_nonneg_left lowerRational (zpow_nonneg (by norm_num) _)).trans_lt fine
  have fromAbove := (zpow_lt_zpow_iff_right₀ (by norm_num)).mp above
  have fromBelow := (zpow_lt_zpow_iff_right₀ (by norm_num)).mp below
  omega

/-- Where the part behind a whole quotient is more than a half, the whole numbers below
the quotient are more than a half away. -/
private theorem half_lt_sub_of_lt_quotient
    {numerator denominator whole count : ℕ}
    (positive : 0 < denominator)
    (lower : (2 * whole + 1) * denominator < 2 * numerator)
    (upper : numerator < (whole + 1) * denominator)
    (below : (count : ℚ) < numerator / denominator) :
    1 / 2 < (numerator : ℚ) / denominator - count := by
  have positiveRational : (0 : ℚ) < denominator := by exact_mod_cast positive
  rw [lt_div_iff₀ positiveRational] at below
  have fewer : count * denominator < (whole + 1) * denominator :=
    lt_trans (by exact_mod_cast below) upper
  have atMost := Nat.mul_le_mul_right denominator
    (Nat.le_of_lt_succ (Nat.lt_of_mul_lt_mul_right fewer))
  have farther : (2 * count + 1) * denominator < 2 * numerator := by
    rw [Nat.add_mul, Nat.mul_assoc] at lower ⊢
    omega
  have fartherRational : (2 * count + 1 : ℚ) * denominator < 2 * numerator := by
    exact_mod_cast farther
  rw [lt_sub_iff_add_lt, lt_div_iff₀ positiveRational]
  linarith

/-- The power of ten of the reciprocal of a quantum, and its first seven digits with
more than a half behind them. -/
private theorem quantaPerUnit_bounds :
    (10 ^ 323 ≤ quantaPerUnit ∧ quantaPerUnit < 10 ^ (323 + 1)) ∧
      (2 * 2024022 + 1) * 10 ^ 317 < 2 * quantaPerUnit ∧
      quantaPerUnit < (2024022 + 1) * 10 ^ 317 := by
  decide +kernel

/-- The smallest power of ten with an eighth digit of a tenth of a quantum at least: no
count of quanta below it is near to it. -/
private theorem half_lt_of_lt_power
    {count : ℕ}
    (below : (count : ℚ) < 10 ^ 7 * (10 ^ (-324 : ℤ) * quantaPerUnit)) :
    1 / 2 < 10 ^ 7 * (10 ^ (-324 : ℤ) * quantaPerUnit) - (count : ℚ) := by
  have scaled (power : ℕ) (unit : ℚ) :
      (10 : ℚ) ^ 7 * (10 ^ (-(power + 7 : ℤ)) * unit) = unit / (10 ^ power : ℕ) := by
    rw [neg_add, zpow_add₀ (by norm_num), zpow_neg, zpow_natCast]
    push_cast
    field_simp
  obtain ⟨_, lower, upper⟩ := quantaPerUnit_bounds
  have positive : 0 < 10 ^ 317 := by positivity
  have isQuotient := scaled 317 quantaPerUnit
  generalize 10 ^ 317 = power at *
  rw [show (-324 : ℤ) = -((317 : ℕ) + 7) from rfl, isQuotient] at below ⊢
  exact half_lt_sub_of_lt_quotient positive lower upper below

/-- A power of ten that is read as a smaller number is off by half a unit of its eighth
digit at most, unless a quantum is ten times as large. -/
private theorem power_sub_readQuanta_le
    {decimal : Decimal}
    {exponent : ℤ}
    (isPower : decimal.magnitude = 10 ^ 7 * 10 ^ exponent)
    (coarse : 1 ≤ (10 : ℚ) ^ (exponent + 1) * quantaPerUnit)
    (below : (readQuanta decimal : ℚ) / quantaPerUnit < decimal.magnitude) :
    decimal.magnitude - readQuanta decimal / quantaPerUnit ≤ 10 ^ exponent / 2 := by
  have unit : (0 : ℚ) < quantaPerUnit := by exact_mod_cast quantaPerUnit_pos
  have error := (abs_le.mp (readQuanta_error decimal)).2
  have positive : (0 : ℚ) < 10 ^ exponent * quantaPerUnit :=
    mul_pos (zpow_pos (by norm_num) _) unit
  have decade := quantaPerUnit_bounds.1
  rw [isPower, div_lt_iff₀ unit, mul_assoc] at below
  rw [isPower, mul_assoc] at error
  rw [isPower, ← mul_le_mul_iff_of_pos_right unit, sub_mul, div_mul_cancel₀ _ unit.ne',
    mul_assoc, div_mul_eq_mul_div]
  by_cases large : 1 ≤ (10 : ℚ) ^ exponent * quantaPerUnit
  · have limited : max 1 (10 ^ 7 * ((10 : ℚ) ^ exponent * quantaPerUnit) / 2 ^ 52) ≤
        (10 : ℚ) ^ exponent * quantaPerUnit := by
      apply max_le large
      rw [div_le_iff₀ (by positivity)]
      linarith
    linarith
  · -- No count of quanta is as near to that power of ten as the one that is read.
    have small := lt_of_not_ge large
    have limited : max 1 (10 ^ 7 * ((10 : ℚ) ^ exponent * quantaPerUnit) / 2 ^ 52) ≤ 1 := by
      apply max_le (le_refl 1)
      rw [div_le_one (by positivity)]
      linarith
    rw [exponent_of_finer decade.1 decade.2 coarse small] at below error limited
    have far := half_lt_of_lt_power below
    linarith

/-! ## Seven significant digits -/

section Again

variable {quanta : ℕ} (negative : Bool) (positive : 0 < quanta)
include positive

/-- A decimal with seven significant digits is not half a unit of their last place above
the number. -/
private theorem magnitude_toSignificant_le :
    (toSignificant 6 negative quanta).magnitude ≤
      quanta / quantaPerUnit + 10 ^ (leadingExponent quanta - 6) / 2 := by
  have power : (0 : ℚ) < 10 ^ (leadingExponent quanta - 6) := zpow_pos (by norm_num) _
  have magnitude := magnitude_toSignificant 6 negative positive
  have near := (abs_le.mp (roundsTo_multiplesOf (leadingExponent quanta - 6) quanta).near).1
  rw [le_sub_iff_add_le, le_div_iff₀ power] at near
  rw [Nat.cast_ofNat] at magnitude
  rw [magnitude]
  linarith

variable (representable : Representable quanta)
include representable

/-- The number that is read rounds to the same multiple of the last place. -/
theorem roundsTo_readQuanta :
    RoundsTo
      (readQuanta (toSignificant 6 negative quanta) / quantaPerUnit /
        10 ^ (leadingExponent quanta - 6))
      (multiplesOf (leadingExponent quanta - 6) quanta) := by
  have power : (0 : ℚ) < 10 ^ (leadingExponent quanta - 6) := zpow_pos (by norm_num) _
  have magnitude := magnitude_toSignificant 6 negative positive
  have closest := readQuanta_closest (toSignificant 6 negative quanta) representable
  rw [Nat.cast_ofNat] at magnitude
  rw [magnitude] at closest
  have inPlaces (value : ℚ) (multiple : ℕ) :
      |value / 10 ^ (leadingExponent quanta - 6) - multiple| =
        |multiple * 10 ^ (leadingExponent quanta - 6) - value| /
          10 ^ (leadingExponent quanta - 6) := by
    rw [← abs_of_pos power, ← abs_div, abs_of_pos power, sub_div,
      mul_div_cancel_right₀ _ power.ne', abs_sub_comm]
  apply (roundsTo_multiplesOf (leadingExponent quanta - 6) quanta).of_nearer
  rw [inPlaces, inPlaces]
  exact div_le_div_of_nonneg_right closest power.le

/-- In front of the power of ten that a number was written as, the number that is read
goes to that power from below, although the places are finer there. -/
private theorem roundsTo_readQuanta_below
    (below : (readQuanta (toSignificant 6 negative quanta) : ℚ) / quantaPerUnit /
      10 ^ (leadingExponent quanta - 6) < 10 ^ 6) :
    RoundsTo
      (readQuanta (toSignificant 6 negative quanta) / quantaPerUnit /
        10 ^ (leadingExponent quanta - 6 - 1))
      (10 ^ 7) := by
  have unit : (0 : ℚ) < quantaPerUnit := by exact_mod_cast quantaPerUnit_pos
  have full := (multiplesOf_bounds 6 positive).1
  have lower := (scaled_bounds 6 positive).1
  have magnitude := magnitude_toSignificant 6 negative positive
  have rounded := roundsTo_multiplesOf (leadingExponent quanta - 6) quanta
  have rounds := roundsTo_readQuanta negative positive representable
  rw [Nat.cast_ofNat] at full lower magnitude
  generalize toSignificant 6 negative quanta = decimal at *
  generalize leadingExponent quanta - 6 = exponent at *
  have isFirst : multiplesOf exponent quanta = 10 ^ 6 :=
    Nat.le_antisymm (rounds.le_of_le (by exact_mod_cast below.le)) full
  have power : (0 : ℚ) < 10 ^ exponent := zpow_pos (by norm_num) _
  have finer : (0 : ℚ) < 10 ^ (exponent - 1) := zpow_pos (by norm_num) _
  have tenth : (10 : ℚ) ^ exponent = 10 * 10 ^ (exponent - 1) := by
    rw [← zpow_one_add₀ (by norm_num), add_sub_cancel]
  rw [isFirst] at magnitude rounded rounds
  push_cast at magnitude
  have isPower : decimal.magnitude = 10 ^ 7 * 10 ^ (exponent - 1) := by
    rw [magnitude, tenth]
    ring
  have coarse : 1 ≤ (10 : ℚ) ^ (exponent - 1 + 1) * quantaPerUnit := by
    -- The number that was written does not lie below the power.
    have less := (div_lt_div_iff_of_pos_right power).mp (below.trans_le lower)
    rw [sub_add_cancel]
    exact one_le_place rounds rounded
      (by exact_mod_cast (div_lt_div_iff_of_pos_right unit).mp less)
  have belowPower : (readQuanta decimal : ℚ) / quantaPerUnit < decimal.magnitude := by
    rw [magnitude]
    exact (div_lt_iff₀ power).mp below
  have near := power_sub_readQuanta_le isPower coarse belowPower
  rw [isPower] at near belowPower
  refine ⟨?_, fun _ => by decide⟩
  rw [Nat.cast_pow, Nat.cast_ofNat, abs_le, le_sub_iff_add_le, sub_le_iff_le_add,
    le_div_iff₀ finer, div_le_iff₀ finer]
  exact ⟨by linarith, by linarith⟩

/-- What is written with seven significant digits is written with the same ones when it
is read again. -/
theorem toSignificant_readQuanta :
    toSignificant 6 negative (readQuanta (toSignificant 6 negative quanta)) =
      toSignificant 6 negative quanta := by
  have bounds := multiplesOf_bounds 6 positive
  have scaled := scaled_bounds 6 positive
  rw [Nat.cast_ofNat] at bounds scaled
  have written := toSignificant_of_rounds negative scaled.1 scaled.2
    (roundsTo_multiplesOf _ quanta)
  have rounds := roundsTo_readQuanta negative positive representable
  have fromBelow := roundsTo_readQuanta_below negative positive representable
  rcases lt_or_ge ((readQuanta (toSignificant 6 negative quanta) : ℚ) / quantaPerUnit /
    10 ^ (leadingExponent quanta - 6)) (10 ^ 6) with below | lower
  · have isFirst : multiplesOf (leadingExponent quanta - 6) quanta = 10 ^ 6 :=
      Nat.le_antisymm (rounds.le_of_le (by exact_mod_cast below.le)) bounds.1
    rw [toSignificant_of_rounds_power negative (fromBelow below), written, isFirst,
      if_pos (by decide), sub_add_cancel]
  · rcases lt_or_ge ((readQuanta (toSignificant 6 negative quanta) : ℚ) / quantaPerUnit /
      10 ^ (leadingExponent quanta - 6)) (10 ^ (6 + 1)) with upper | above
    · rw [toSignificant_of_rounds negative lower upper rounds, written]
    · have carries : multiplesOf (leadingExponent quanta - 6) quanta = 10 ^ (6 + 1) :=
        Nat.le_antisymm bounds.2 (rounds.le_of_ge (by exact_mod_cast above))
      rw [carries] at rounds written
      rw [toSignificant_of_rounds_power negative rounds, written,
        if_neg (Nat.lt_irrefl _)]

end Again

/-! ## The range of the decimals -/

def largestQuanta : ℕ :=
  (significandBound - 1) * 2 ^ (rangeShift - 53)

private theorem representable_largestQuanta : Representable largestQuanta :=
  representable_mul_two_pow (by decide) (by decide)

/-- Seven digits of the numbers in range are no more than those of the largest one, which
are rounded down. -/
private theorem range_bounds :
    1797693 * 10 ^ (302 : ℤ) * quantaPerUnit ≤ (largestQuanta : ℚ) ∧
      2 * overflowBound + 10 ^ (302 : ℤ) * quantaPerUnit <
        (2 * (1797693 + 1) * 10 ^ (302 : ℤ) * quantaPerUnit : ℚ) := by
  have bounds : 1797693 * 10 ^ 302 * quantaPerUnit ≤ largestQuanta ∧
      2 * overflowBound + 10 ^ 302 * quantaPerUnit <
        2 * (1797693 + 1) * 10 ^ 302 * quantaPerUnit := by decide +kernel
  have isPower (power : ℕ) : (10 : ℚ) ^ (power : ℤ) = (10 ^ power : ℕ) := by
    rw [Nat.cast_pow, Nat.cast_ofNat, zpow_natCast]
  rw [show (302 : ℤ) = (302 : ℕ) from rfl, isPower]
  generalize 10 ^ 302 = power at *
  generalize largestQuanta = largest at *
  generalize overflowBound = bound at *
  generalize quantaPerUnit = unit at *
  exact_mod_cast bounds

section Range

variable
  {quanta : ℕ}
  (negative : Bool)
  (positive : 0 < quanta)
  (representable : Representable quanta)
include positive representable

/-- The first digit of a finite number stands for the power 308 of ten at most. -/
theorem leadingExponent_le : leadingExponent quanta ≤ 308 := by
  have unit : (0 : ℚ) < quantaPerUnit := by exact_mod_cast quantaPerUnit_pos
  have lower := (leadingExponent_bounds positive).1
  have upper := range_bounds.2
  have inRange : (quanta : ℚ) < overflowBound := by exact_mod_cast representable.inRange
  have small : (10 : ℚ) ^ leadingExponent quanta < 10 ^ (309 : ℤ) := by
    have split : (10 : ℚ) ^ (309 : ℤ) = 10 ^ 7 * 10 ^ (302 : ℤ) := by
      rw [← zpow_natCast, ← zpow_add₀ (by norm_num)]
      rfl
    have power : (0 : ℚ) < 10 ^ (302 : ℤ) * quantaPerUnit :=
      mul_pos (zpow_pos (by norm_num) _) unit
    refine lower.trans_lt ?_
    rw [div_lt_iff₀ unit, split]
    generalize (10 : ℚ) ^ (302 : ℤ) = place at *
    linarith
  have exponents := (zpow_lt_zpow_iff_right₀ (by norm_num)).mp small
  omega

/-- No number is written as more than the largest one. -/
private theorem magnitude_toSignificant_mul_le :
    (toSignificant 6 negative quanta).magnitude * quantaPerUnit ≤ largestQuanta := by
  have unit : (0 : ℚ) < quantaPerUnit := by exact_mod_cast quantaPerUnit_pos
  obtain ⟨shortened, next⟩ := range_bounds
  have short := (toSignificant_coefficient 6 negative positive).2
  have member := Decimal.magnitude_mem_significant short
  have above := magnitude_toSignificant_le negative positive
  have place : (10 : ℚ) ^ (leadingExponent quanta - 6) ≤ 10 ^ (302 : ℤ) := by
    have atMost := leadingExponent_le positive representable
    exact zpow_le_zpow_right₀ (by norm_num) (by omega)
  have inRange : (quanta : ℚ) < overflowBound := by exact_mod_cast representable.inRange
  have power : (0 : ℚ) < 10 ^ (302 : ℤ) := zpow_pos (by norm_num) _
  have cases := multiple_or_lt member 302
  generalize (toSignificant 6 negative quanta).magnitude = written at *
  generalize (10 : ℚ) ^ (302 : ℤ) = largePlace at *
  have aboveNumber : written * quantaPerUnit ≤ quanta + largePlace * quantaPerUnit / 2 := by
    calc
      written * quantaPerUnit ≤ (quanta / quantaPerUnit + largePlace / 2) * quantaPerUnit :=
        mul_le_mul_of_nonneg_right (by linarith) unit.le
      _ = quanta + largePlace * quantaPerUnit / 2 := by
        rw [add_mul, div_mul_cancel₀ _ unit.ne', div_mul_eq_mul_div]
  have few : written ≤ 1797693 * largePlace := by
    rcases cases with ⟨multiple, rfl⟩ | below
    · have less : (multiple : ℚ) * (largePlace * quantaPerUnit) <
          (1797693 + 1) * (largePlace * quantaPerUnit) := by linarith
      have fewer : multiple < 1797693 + 1 := by
        exact_mod_cast lt_of_mul_lt_mul_right less (mul_pos power unit).le
      exact mul_le_mul_of_nonneg_right
        (by exact_mod_cast Int.le_of_lt_add_one fewer) power.le
    · linarith
  exact (mul_le_mul_of_nonneg_right few unit.le).trans shortened

theorem readQuanta_toSignificant_lt :
    readQuanta (toSignificant 6 negative quanta) < overflowBound := by
  have unit : (0 : ℚ) < quantaPerUnit := by exact_mod_cast quantaPerUnit_pos
  have atMost := magnitude_toSignificant_mul_le negative positive representable
  exact (readQuanta_le _ representable_largestQuanta ((le_div_iff₀ unit).mpr atMost)).trans_lt
    representable_largestQuanta.inRange

end Range

end Keypad.Binary64
