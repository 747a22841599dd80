import Keypad.Proofs.Binary64.SignOfZero
import Keypad.Proofs.Decimal.Value
import Mathlib.Data.Set.Basic

/-!
Nearest decimals.

A number is written as the nearest point of a grid: of the multiples of the last
place, or of the decimals with some significant digits.  The second grid is the
first one around the number, with the power of ten that its first digit calls for;
the finer points of it lie below that digit's power of ten, and so farther away.

Owns:
- the signed rationals of numbers and decimals;
- grids of decimals, and the point of a grid that a value is rounded to: its distance
  and its order;
- the power of ten of a number's first digit;
- the decimals that a number is rounded to.

Does not own: how a decimal is written.

Main statements: `toPlaces_nearestEven`, `toSignificant_nearestEven`.
-/

namespace Keypad

/-! ## Values and grids -/

/-- The rational that a finite number is. -/
def Binary64.value : Binary64 → ℚ
  | .finite negative quanta _ => withSign negative quanta / quantaPerUnit
  | _ => 0

def Decimal.value (decimal : Decimal) : ℚ :=
  withSign decimal.negative decimal.coefficient * (10 : ℚ) ^ decimal.exponent

def multiples (unit : ℚ) : Set ℚ :=
  {point | ∃ multiple : ℤ, point = multiple * unit}

def significant (count : ℕ) : Set ℚ :=
  {point | ∃ coefficient exponent : ℤ,
    |coefficient| < 10 ^ count ∧ point = coefficient * 10 ^ exponent}

def evenSignificant (count : ℕ) : Set ℚ :=
  {point | ∃ coefficient exponent : ℤ,
    10 ^ (count - 1) ≤ |coefficient| ∧ |coefficient| < 10 ^ count ∧
      Even coefficient ∧ point = coefficient * 10 ^ exponent}

/-- The point of a grid that no other one is nearer to a value than; of two that are
equally near the even one. -/
structure NearestEven (grid even : Set ℚ) (value point : ℚ) : Prop where
  onGrid : point ∈ grid
  closest : ∀ other ∈ grid, |value - point| ≤ |value - other|
  tie : ∀ other ∈ grid, other ≠ point →
    |value - other| = |value - point| → point ∈ even

private theorem withSign_mul (negative : Bool) (size : ℕ) (unit : ℚ) :
    (withSign negative size : ℚ) * unit =
      if negative then -(size * unit) else size * unit := by
  cases negative <;> simp [withSign]

theorem Decimal.value_eq (decimal : Decimal) :
    decimal.value =
      if decimal.negative then -decimal.magnitude else decimal.magnitude :=
  withSign_mul _ _ _

theorem Decimal.abs_value (decimal : Decimal) : |decimal.value| = decimal.magnitude := by
  rw [value_eq]
  cases decimal.negative with
  | false => exact abs_of_nonneg decimal.magnitude_nonneg
  | true => exact (abs_neg _).trans (abs_of_nonneg decimal.magnitude_nonneg)

theorem Binary64.value_finite
    (negative : Bool)
    (quanta : ℕ)
    (representable : Representable quanta) :
    (finite negative quanta representable).value =
      if negative then -((quanta : ℚ) / quantaPerUnit) else quanta / quantaPerUnit := by
  have scaled := withSign_mul negative quanta (quantaPerUnit : ℚ)⁻¹
  rwa [← div_eq_mul_inv, ← div_eq_mul_inv] at scaled

theorem Binary64.abs_value
    (negative : Bool)
    (quanta : ℕ)
    (representable : Representable quanta) :
    |(finite negative quanta representable).value| = quanta / quantaPerUnit := by
  have nonnegative : (0 : ℚ) ≤ quanta / quantaPerUnit :=
    div_nonneg (Nat.cast_nonneg _) (Nat.cast_nonneg _)
  rw [value_finite]
  cases negative with
  | false => exact abs_of_nonneg nonnegative
  | true => exact (abs_neg _).trans (abs_of_nonneg nonnegative)

theorem Binary64.value_of_isZero
    {number : Binary64}
    (zero : number.isZero = true) :
    number.value = 0 := by
  cases number with
  | infinite negative => rfl
  | nan => rfl
  | finite negative quanta representable =>
      rw [← abs_eq_zero, abs_value, of_decide_eq_true zero, Nat.cast_zero, zero_div]

/-- The sign of a zero is not part of its value. -/
theorem Binary64.value_unsignZero (number : Binary64) :
    number.unsignZero.value = number.value := by
  unfold unsignZero
  split
  · rename_i zero
    rw [value_of_isZero zero, value_of_isZero rfl]
  · rfl

/-- Finite numbers of one value differ in the sign of a zero at most. -/
theorem Binary64.unsignZero_of_value_eq
    {left right : Binary64}
    (finite : left.isFinite = true)
    (otherFinite : right.isFinite = true)
    (same : left.value = right.value) :
    left.unsignZero = right.unsignZero := by
  obtain ⟨negative, quanta, representable, rfl⟩ := exists_of_isFinite finite
  obtain ⟨signed, count, again, rfl⟩ := exists_of_isFinite otherFinite
  have unit : (quantaPerUnit : ℚ) ≠ 0 := by exact_mod_cast quantaPerUnit_pos.ne'
  have sameRank : withSign negative quanta = withSign signed count := by
    exact_mod_cast (div_left_inj' unit).mp same
  obtain rfl : quanta = count := by
    have sizes := congrArg Int.natAbs sameRank
    cases negative <;> cases signed <;> simpa [withSign] using sizes
  by_cases zero : quanta = 0
  · subst zero
    rw [unsignZero_finite_zero, unsignZero_finite_zero]
  · obtain rfl : negative = signed := by
      cases negative <;> cases signed <;> simp [withSign] at sameRank ⊢ <;> omega
    rfl

theorem neg_mem_multiples
    {unit point : ℚ}
    (member : point ∈ multiples unit) :
    -point ∈ multiples unit := by
  obtain ⟨multiple, rfl⟩ := member
  exact ⟨-multiple, by push_cast; ring⟩

/-- Multiples of a unit are a unit apart at least. -/
theorem add_unit_le_of_lt
    {unit lower upper : ℚ}
    (positive : 0 < unit)
    (member : lower ∈ multiples unit)
    (otherMember : upper ∈ multiples unit)
    (ordered : lower < upper) :
    lower + unit ≤ upper := by
  obtain ⟨multiple, rfl⟩ := member
  obtain ⟨other, rfl⟩ := otherMember
  have fewer : multiple + 1 ≤ other := by
    exact_mod_cast lt_of_mul_lt_mul_right ordered positive.le
  calc
    multiple * unit + unit = ((multiple + 1 : ℤ) : ℚ) * unit := by push_cast; ring
    _ ≤ other * unit := mul_le_mul_of_nonneg_right (by exact_mod_cast fewer) positive.le

theorem neg_mem_significant
    {count : ℕ}
    {point : ℚ}
    (member : point ∈ significant count) :
    -point ∈ significant count := by
  obtain ⟨coefficient, exponent, short, rfl⟩ := member
  exact ⟨-coefficient, exponent, by rwa [abs_neg], by push_cast; ring⟩

theorem neg_mem_evenSignificant
    {count : ℕ}
    {point : ℚ}
    (member : point ∈ evenSignificant count) :
    -point ∈ evenSignificant count := by
  obtain ⟨coefficient, exponent, full, short, even, rfl⟩ := member
  exact ⟨-coefficient, exponent, by rwa [abs_neg], by rwa [abs_neg], even.neg,
    by push_cast; ring⟩

theorem zpow_mem_significant (fewer : ℕ) (exponent : ℤ) :
    (10 : ℚ) ^ exponent ∈ significant (fewer + 1) := by
  refine ⟨1, exponent, ?_, by push_cast; ring⟩
  rw [abs_one]
  exact one_lt_pow₀ (by norm_num) (Nat.succ_ne_zero fewer)

theorem Decimal.magnitude_mem_significant
    {decimal : Decimal}
    {count : ℕ}
    (short : decimal.coefficient < 10 ^ count) :
    decimal.magnitude ∈ significant count := by
  refine ⟨decimal.coefficient, decimal.exponent, ?_, rfl⟩
  rw [abs_of_nonneg (Int.natCast_nonneg _)]
  exact_mod_cast short

private theorem Decimal.magnitude_mem_evenSignificant
    {decimal : Decimal}
    {further : ℕ}
    (full : 10 ^ further ≤ decimal.coefficient)
    (short : decimal.coefficient < 10 ^ (further + 1))
    (even : Even decimal.coefficient) :
    decimal.magnitude ∈ evenSignificant (further + 1) := by
  refine ⟨decimal.coefficient, decimal.exponent, ?_, ?_,
    (Int.even_coe_nat _).mpr even, rfl⟩
  · rw [abs_of_nonneg (Int.natCast_nonneg _), Nat.add_sub_cancel]
    exact_mod_cast full
  · rw [abs_of_nonneg (Int.natCast_nonneg _)]
    exact_mod_cast short

/-- A rounding that goes to the even one of two neighbours is the same on both sides
of zero. -/
theorem NearestEven.withSign
    {grid even : Set ℚ}
    {value point : ℚ}
    (negative : Bool)
    (mirrored : ∀ other ∈ grid, -other ∈ grid)
    (evenMirrored : ∀ other ∈ even, -other ∈ even)
    (nearest : NearestEven grid even value point) :
    NearestEven grid even
      (if negative then -value else value) (if negative then -point else point) := by
  cases negative with
  | false => exact nearest
  | true =>
      have distance (other : ℚ) : |-value - other| = |value - -other| := by
        rw [← abs_neg, neg_sub, sub_neg_eq_add, sub_neg_eq_add, add_comm]
      refine ⟨mirrored point nearest.onGrid, ?_, ?_⟩
      · intro other member
        have closest := nearest.closest (-other) (mirrored other member)
        simpa only [if_true, distance, neg_neg] using closest
      · intro other member different equal
        simp only [if_true, distance, neg_neg] at equal
        refine evenMirrored point
          (nearest.tie (-other) (mirrored other member) ?_ equal)
        rintro rfl
        exact different (neg_neg other).symm

/-! ## What nearest points are like -/

section Nearer

variable {value point other : ℚ} (nearer : |value - point| ≤ |value - other|)
include nearer

/-- A value is not below the middle between a nearer point and a lower one. -/
theorem middle_le_of_nearer (lower : other < point) : point + other ≤ 2 * value := by
  by_contra below
  have distance : |value - other| < point - value := abs_lt.mpr ⟨by linarith, by linarith⟩
  have ownDistance := neg_le_abs (value - point)
  linarith

/-- A value is not above the middle between a nearer point and a higher one. -/
theorem le_middle_of_nearer (higher : point < other) : 2 * value ≤ point + other := by
  by_contra above
  have distance : |value - other| < value - point := abs_lt.mpr ⟨by linarith, by linarith⟩
  have ownDistance := le_abs_self (value - point)
  linarith

end Nearer

namespace NearestEven

variable {grid even : Set ℚ} {value point : ℚ} (nearest : NearestEven grid even value point)
include nearest

private theorem middle_le
    {other : ℚ}
    (member : other ∈ grid)
    (lower : other < point) :
    point + other ≤ 2 * value :=
  middle_le_of_nearer (nearest.closest other member) lower

theorem le_middle
    {other : ℚ}
    (member : other ∈ grid)
    (higher : point < other) :
    2 * value ≤ point + other :=
  le_middle_of_nearer (nearest.closest other member) higher

/-- A point of the grid above a value is not passed. -/
theorem le_of_le
    {bound : ℚ}
    (member : bound ∈ grid)
    (above : value ≤ bound) :
    point ≤ bound := by
  by_contra passed
  have middle := nearest.middle_le member (lt_of_not_ge passed)
  linarith

/-- A point of the grid below a value is not passed. -/
theorem le_of_ge
    {bound : ℚ}
    (member : bound ∈ grid)
    (below : bound ≤ value) :
    bound ≤ point := by
  by_contra passed
  have middle := nearest.le_middle member (lt_of_not_ge passed)
  linarith

/-- Were the points in the other order, both values would lie in the middle. -/
theorem mono
    {otherEven : Set ℚ}
    {otherValue otherPoint : ℚ}
    (otherNearest : NearestEven grid otherEven otherValue otherPoint)
    (ordered : value < otherValue) :
    point ≤ otherPoint := by
  by_contra crossed
  have lower := lt_of_not_ge crossed
  have fromBelow := nearest.middle_le otherNearest.onGrid lower
  have fromAbove := otherNearest.le_middle nearest.onGrid lower
  linarith

end NearestEven

/-- A value is half a unit away from its nearest multiple at most. -/
theorem NearestEven.error
    {unit value point : ℚ}
    {even : Set ℚ}
    (nearest : NearestEven (multiples unit) even value point)
    (positive : 0 < unit) :
    |value - point| ≤ unit / 2 := by
  obtain ⟨multiple, isMultiple⟩ := nearest.onGrid
  have next : point + unit ∈ multiples unit :=
    ⟨multiple + 1, by rw [isMultiple]; push_cast; ring⟩
  have previous : point - unit ∈ multiples unit :=
    ⟨multiple - 1, by rw [isMultiple]; push_cast; ring⟩
  have fromAbove := nearest.le_middle next (lt_add_of_pos_right point positive)
  have fromBelow := nearest.middle_le previous (sub_lt_self point positive)
  exact abs_le.mpr ⟨by linarith, by linarith⟩

/-! ## Rounding onto a grid -/

section Rounded

variable {unit value : ℚ} {whole : ℕ}

/-- The whole number that a value is rounded to is half a unit nearer than any
other integer at least. -/
theorem RoundsTo.half_le
    (rounds : RoundsTo value whole)
    {other : ℤ}
    (different : other ≠ whole) :
    1 / 2 ≤ |value - other| := by
  have apart : (1 : ℚ) ≤ |(other : ℚ) - whole| := by
    exact_mod_cast Int.one_le_abs (sub_ne_zero.mpr different)
  have between := abs_sub (value - whole) (value - other)
  rw [sub_sub_sub_cancel_left] at between
  linarith [rounds.near]

private theorem RoundsTo.nearestEven_multiples
    (positive : 0 < unit)
    (rounds : RoundsTo (value / unit) whole) :
    NearestEven (multiples unit) (multiples (2 * unit)) value (whole * unit) := by
  have scaled (count : ℚ) : |value - count * unit| = |value / unit - count| * unit := by
    rw [← abs_of_pos positive, ← abs_mul, abs_of_pos positive, sub_mul,
      div_mul_cancel₀ value positive.ne']
  refine ⟨⟨whole, by push_cast; rfl⟩, ?_, ?_⟩
  · rintro other ⟨multiple, rfl⟩
    rw [scaled, scaled]
    apply mul_le_mul_of_nonneg_right _ positive.le
    by_cases same : multiple = whole
    · rw [same, Int.cast_natCast]
    · exact rounds.near.trans (rounds.half_le same)
  · rintro other ⟨multiple, rfl⟩ different equal
    rw [scaled, scaled] at equal
    have same := mul_right_cancel₀ positive.ne' equal
    have isOther : multiple ≠ whole := by
      rintro rfl
      exact different (by push_cast; rfl)
    have half := le_antisymm rounds.near (same ▸ rounds.half_le isOther)
    obtain ⟨quotient, isDouble⟩ := rounds.tie half
    refine ⟨quotient, ?_⟩
    rw [isDouble]
    push_cast
    ring

private theorem even_of_mem_multiples
    (positive : 0 < unit)
    (member : (whole : ℚ) * unit ∈ multiples (2 * unit)) :
    Even whole := by
  obtain ⟨half, isDouble⟩ := member
  have double : (whole : ℚ) = half * 2 :=
    mul_right_cancel₀ positive.ne' (by rw [isDouble, mul_assoc])
  have doubleInt : (whole : ℤ) = half * 2 := by exact_mod_cast double
  rw [← Int.even_coe_nat, doubleInt]
  exact even_two.mul_left half

/-- What has few significant digits is a multiple of a power of ten, or is smaller
than the decimals that need all of the digits with that power. -/
theorem multiple_or_lt
    {further : ℕ}
    {point : ℚ}
    (member : point ∈ significant (further + 1))
    (exponent : ℤ) :
    point ∈ multiples (10 ^ exponent) ∨ point < 10 ^ further * 10 ^ exponent := by
  obtain ⟨coefficient, power, short, rfl⟩ := member
  by_cases coarse : exponent ≤ power
  · obtain ⟨gap, rfl⟩ := Int.le.dest coarse
    refine .inl ⟨coefficient * 10 ^ gap, ?_⟩
    rw [zpow_add₀ (by norm_num), zpow_natCast]
    push_cast
    ring
  · right
    have belowPower : (coefficient : ℚ) < 10 ^ (further + 1) := by
      exact_mod_cast (le_abs_self coefficient).trans_lt short
    calc
      (coefficient : ℚ) * 10 ^ power < 10 ^ (further + 1) * 10 ^ power :=
        mul_lt_mul_of_pos_right belowPower (zpow_pos (by norm_num) _)
      _ ≤ 10 ^ (further + 1) * 10 ^ (exponent - 1) :=
        mul_le_mul_of_nonneg_left
          (zpow_le_zpow_right₀ (by norm_num) (by omega)) (by positivity)
      _ = 10 ^ further * 10 ^ exponent := by
        rw [pow_succ, mul_assoc, ← zpow_one_add₀ (by norm_num), add_sub_cancel]

/-- A value that needs all of the digits is rounded to as few of them when it is
rounded to a multiple of its last one. -/
theorem RoundsTo.nearestEven_significant
    {further : ℕ}
    {exponent : ℤ}
    (rounds : RoundsTo (value / 10 ^ exponent) whole)
    (large : 10 ^ further ≤ value / 10 ^ exponent)
    (onGrid : (whole : ℚ) * 10 ^ exponent ∈ significant (further + 1))
    (even : Even whole →
      (whole : ℚ) * 10 ^ exponent ∈ evenSignificant (further + 1)) :
    NearestEven (significant (further + 1)) (evenSignificant (further + 1))
      value (whole * 10 ^ exponent) := by
  have positive : (0 : ℚ) < 10 ^ exponent := zpow_pos (by norm_num) _
  have nearest := rounds.nearestEven_multiples positive
  rw [le_div_iff₀ positive] at large
  have finerIsFarther (other : ℚ) (below : other < 10 ^ further * 10 ^ exponent) :
      |value - whole * 10 ^ exponent| < |value - other| := by
    have start : (10 : ℚ) ^ further * 10 ^ exponent ∈ multiples (10 ^ exponent) :=
      ⟨10 ^ further, by push_cast; rfl⟩
    calc
      |value - whole * 10 ^ exponent| ≤ |value - 10 ^ further * 10 ^ exponent| :=
        nearest.closest _ start
      _ = value - 10 ^ further * 10 ^ exponent := abs_of_nonneg (sub_nonneg.mpr large)
      _ < value - other := sub_lt_sub_left below value
      _ ≤ |value - other| := le_abs_self _
  refine ⟨onGrid, ?_, ?_⟩
  · intro other member
    rcases multiple_or_lt member exponent with multiple | below
    · exact nearest.closest other multiple
    · exact (finerIsFarther other below).le
  · intro other member different equal
    rcases multiple_or_lt member exponent with multiple | below
    · exact even (even_of_mem_multiples positive
        (nearest.tie other multiple different equal))
    · exact absurd equal (finerIsFarther other below).ne'

end Rounded

/-! ## The decimals of a number -/

namespace Binary64

variable {quanta : ℕ}

/-- The first digit of a number stands at its leading exponent. -/
theorem leadingExponent_bounds (positive : 0 < quanta) :
    (10 : ℚ) ^ leadingExponent quanta ≤ quanta / quantaPerUnit ∧
      (quanta : ℚ) / quantaPerUnit < 10 ^ (leadingExponent quanta + 1) := by
  have unitPositive := quantaPerUnit_pos
  unfold leadingExponent
  generalize quantaPerUnit = unit at *
  have unitRational : (0 : ℚ) < unit := by exact_mod_cast unitPositive
  have counted (number : ℕ) : ∃ fewer, Decimal.digitCount number = fewer + 1 :=
    Nat.exists_eq_succ_of_ne_zero
      (List.length_pos_iff.mpr (Decimal.digits_ne_nil number)).ne'
  split
  · -- The digits in front of the point are those of the whole part.
    rename_i large
    have lower := Decimal.pow_digitCount_le (Nat.div_pos large unitPositive)
    have upper := Decimal.lt_pow_digitCount (quanta / unit)
    obtain ⟨fewer, count⟩ := counted (quanta / unit)
    rw [count] at lower upper ⊢
    rw [Nat.add_sub_cancel, Nat.le_div_iff_mul_le unitPositive] at lower
    rw [Nat.div_lt_iff_lt_mul unitPositive] at upper
    rw [le_div_iff₀ unitRational, div_lt_iff₀ unitRational, sub_add_cancel,
      Nat.cast_succ, add_sub_cancel_right, zpow_natCast, ← Nat.cast_succ, zpow_natCast]
    exact ⟨by exact_mod_cast lower, by exact_mod_cast upper⟩
  · -- The first digit behind the point is found with the reciprocal, rounded down
    -- when it is whole.
    rename_i small
    have atLeastOne : 0 < (unit - 1) / quanta := Nat.div_pos (by omega) positive
    have lower := Decimal.pow_digitCount_le atLeastOne
    have upper := Decimal.lt_pow_digitCount ((unit - 1) / quanta)
    obtain ⟨fewer, count⟩ := counted ((unit - 1) / quanta)
    rw [count] at lower upper ⊢
    rw [Nat.add_sub_cancel, Nat.le_div_iff_mul_le positive] at lower
    rw [Nat.div_lt_iff_lt_mul positive] at upper
    have aboveUnit : unit ≤ 10 ^ (fewer + 1) * quanta := by omega
    have belowUnit : 10 ^ fewer * quanta < unit := by omega
    have next : -((fewer + 1 : ℕ) : ℤ) + 1 = -(fewer : ℤ) := by omega
    rw [next, zpow_neg, zpow_neg, zpow_natCast, zpow_natCast,
      inv_le_iff_one_le_mul₀ (by positivity), div_lt_iff₀ unitRational,
      lt_inv_mul_iff₀ (by positivity), div_mul_eq_mul_div, one_le_div₀ unitRational]
    rw [mul_comm]
    exact ⟨by exact_mod_cast aboveUnit, by exact_mod_cast belowUnit⟩

/-- With places behind the point a number goes to the nearest multiple of the last
one. -/
theorem toPlaces_nearestEven
    (places : ℕ)
    (negative : Bool)
    (representable : Representable quanta) :
    NearestEven
      (multiples (10 ^ (-(places : ℤ)))) (multiples (2 * 10 ^ (-(places : ℤ))))
      (finite negative quanta representable).value
      (toPlaces places negative quanta).value := by
  have nearest := (roundsTo_multiplesOf (-(places : ℤ)) quanta).nearestEven_multiples
    (zpow_pos (by norm_num) _)
  rw [value_finite, Decimal.value_eq]
  exact nearest.withSign negative (fun _ => neg_mem_multiples) fun _ => neg_mem_multiples

section Significant

variable (further : ℕ) (negative : Bool)

/-- A carry leaves a one and zeros, and moves the point. -/
theorem toSignificant_cases (quanta : ℕ) :
    (multiplesOf (leadingExponent quanta - further) quanta < 10 ^ (further + 1) ∧
        toSignificant further negative quanta =
          ⟨negative, multiplesOf (leadingExponent quanta - further) quanta,
            leadingExponent quanta - further⟩) ∨
      (10 ^ (further + 1) ≤ multiplesOf (leadingExponent quanta - further) quanta ∧
        toSignificant further negative quanta =
          ⟨negative, 10 ^ further, leadingExponent quanta - further + 1⟩) := by
  by_cases fits :
      multiplesOf (leadingExponent quanta - further) quanta < 10 ^ (further + 1)
  · exact .inl ⟨fits, if_pos fits⟩
  · exact .inr ⟨Nat.le_of_not_lt fits, if_neg fits⟩

theorem toSignificant_negative (quanta : ℕ) :
    (toSignificant further negative quanta).negative = negative := by
  rcases toSignificant_cases further negative quanta with ⟨_, plain⟩ | ⟨_, carried⟩
  · rw [plain]
  · rw [carried]

/-- After a carry the last digit is a zero, and without one it is that of the
multiple. -/
private theorem even_toSignificant
    (several : 0 < further)
    (even : Even (multiplesOf (leadingExponent quanta - further) quanta)) :
    Even (toSignificant further negative quanta).coefficient := by
  rcases toSignificant_cases further negative quanta with ⟨_, plain⟩ | ⟨_, carried⟩
  · simpa only [plain] using even
  · rw [carried]
    exact Nat.even_pow.mpr ⟨by decide, several.ne'⟩

variable (positive : 0 < quanta)
include positive

/-- The significant digits of a number before they are rounded. -/
theorem scaled_bounds :
    (10 : ℚ) ^ further ≤
        quanta / quantaPerUnit / 10 ^ (leadingExponent quanta - further) ∧
      (quanta : ℚ) / quantaPerUnit / 10 ^ (leadingExponent quanta - further) <
        10 ^ (further + 1) := by
  obtain ⟨lower, upper⟩ := leadingExponent_bounds positive
  have power : (0 : ℚ) < 10 ^ (leadingExponent quanta - further) :=
    zpow_pos (by norm_num) _
  rw [le_div_iff₀ power, div_lt_iff₀ power, ← zpow_natCast, ← zpow_natCast,
    ← zpow_add₀ (by norm_num), ← zpow_add₀ (by norm_num), add_sub_cancel, Nat.cast_succ,
    add_right_comm, add_sub_cancel]
  exact ⟨lower, upper⟩

/-- Rounding may carry into one more digit, but not into two. -/
theorem multiplesOf_bounds :
    10 ^ further ≤ multiplesOf (leadingExponent quanta - further) quanta ∧
      multiplesOf (leadingExponent quanta - further) quanta ≤ 10 ^ (further + 1) := by
  obtain ⟨lower, upper⟩ := scaled_bounds further positive
  have rounds := roundsTo_multiplesOf (leadingExponent quanta - further) quanta
  constructor
  · exact rounds.le_of_ge (by exact_mod_cast lower)
  · exact rounds.le_of_le (by exact_mod_cast upper.le)

/-- The coefficient of a rounded number has all of its digits. -/
theorem toSignificant_coefficient :
    10 ^ further ≤ (toSignificant further negative quanta).coefficient ∧
      (toSignificant further negative quanta).coefficient < 10 ^ (further + 1) := by
  have lower := (multiplesOf_bounds further positive).1
  rcases toSignificant_cases further negative quanta with ⟨fits, plain⟩ | ⟨_, carried⟩
  · simp only [plain]
    exact ⟨lower, fits⟩
  · rw [carried]
    exact ⟨Nat.le_refl _, Nat.pow_lt_pow_right (by decide) (Nat.lt_succ_self further)⟩

theorem magnitude_toSignificant :
    (toSignificant further negative quanta).magnitude =
      multiplesOf (leadingExponent quanta - further) quanta *
        10 ^ (leadingExponent quanta - further) := by
  have upper := (multiplesOf_bounds further positive).2
  rcases toSignificant_cases further negative quanta with ⟨_, plain⟩ | ⟨carries, carried⟩
  · rw [plain, Decimal.magnitude]
  · rw [carried, Nat.le_antisymm upper carries, Decimal.magnitude,
      zpow_add_one₀ (by norm_num)]
    push_cast
    ring

theorem magnitude_toSignificant_nearestEven (several : 0 < further) :
    NearestEven (significant (further + 1)) (evenSignificant (further + 1))
      (quanta / quantaPerUnit) (toSignificant further negative quanta).magnitude := by
  obtain ⟨full, short⟩ := toSignificant_coefficient further negative positive
  have rounds := roundsTo_multiplesOf (leadingExponent quanta - further) quanta
  have nearest := rounds.nearestEven_significant (scaled_bounds further positive).1
  rw [← magnitude_toSignificant further negative positive] at nearest
  exact nearest (Decimal.magnitude_mem_significant short) fun isEven =>
    Decimal.magnitude_mem_evenSignificant full short
      (even_toSignificant further negative several isEven)

/-- A number goes to the nearest decimal with some significant digits. -/
theorem toSignificant_nearestEven
    (several : 0 < further)
    (representable : Representable quanta) :
    NearestEven (significant (further + 1)) (evenSignificant (further + 1))
      (finite negative quanta representable).value
      (toSignificant further negative quanta).value := by
  rw [value_finite, Decimal.value_eq, toSignificant_negative]
  exact (magnitude_toSignificant_nearestEven further negative positive several).withSign
    negative (fun _ => neg_mem_significant) fun _ => neg_mem_evenSignificant

end Significant

end Binary64

end Keypad
