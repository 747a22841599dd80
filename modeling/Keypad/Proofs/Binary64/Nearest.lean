import Keypad.Binary64.Rounding
import Mathlib.Algebra.Order.Floor.Semifield
import Mathlib.Data.Nat.Cast.Order.Field
import Mathlib.Data.Rat.Floor
import Mathlib.Tactic.Linarith
import Mathlib.Tactic.FieldSimp

/-!
Roundings as nearest points.

A quotient is rounded to a whole number that none is nearer to, and to a
representable count that no other one is nearer to.  What follows from that needs
no more than distances: how the rounding is computed does not matter, and neither
does the fraction that a quotient is written with.

Owns:
- the whole number that a rational rounds to, and that there is only one;
- the distance of a quotient to its nearest representable count;
- the bounds that representable counts set to their neighbourhood.

Main statement: `nearest_closest`.
-/

namespace Keypad

/-- A whole number is at most half a unit away, and even if it is half a unit. -/
structure RoundsTo (value : ℚ) (whole : ℕ) : Prop where
  near : |value - whole| ≤ 1 / 2
  tie : |value - whole| = 1 / 2 → Even whole

namespace RoundsTo

variable {value : ℚ} {whole other : ℕ}

private theorem not_lt
    (rounds : RoundsTo value whole)
    (otherRounds : RoundsTo value other) :
    ¬ whole < other := by
  intro below
  have apart : (whole : ℚ) + 1 ≤ other := by exact_mod_cast below
  have fromWhole := abs_le.mp rounds.near
  have fromOther := abs_le.mp otherRounds.near
  -- Both are half a unit away, and neighbours are not both even.
  have next : (other : ℚ) = whole + 1 := by linarith
  have half : value - whole = 1 / 2 := by linarith
  have otherHalf : value - other = -(1 / 2) := by linarith
  have even := rounds.tie (by rw [half, abs_of_pos (by norm_num)])
  have otherEven := otherRounds.tie (by rw [otherHalf, abs_neg, abs_of_pos (by norm_num)])
  have isNext : other = whole + 1 := by exact_mod_cast next
  rw [isNext, Nat.even_add_one] at otherEven
  exact otherEven even

theorem unique
    (rounds : RoundsTo value whole)
    (otherRounds : RoundsTo value other) :
    whole = other :=
  Nat.le_antisymm (Nat.le_of_not_lt (otherRounds.not_lt rounds))
    (Nat.le_of_not_lt (rounds.not_lt otherRounds))

/-- No whole number is nearer. -/
theorem closest
    (rounds : RoundsTo value whole)
    (other : ℕ) :
    |value - whole| ≤ |value - other| := by
  have near := abs_le.mp rounds.near
  rcases Nat.lt_trichotomy whole other with below | rfl | above
  · have apart : (whole : ℚ) + 1 ≤ other := by exact_mod_cast below
    calc
      |value - whole| ≤ 1 / 2 := rounds.near
      _ ≤ -(value - other) := by linarith
      _ ≤ |value - other| := neg_le_abs _
  · exact le_refl _
  · have apart : (other : ℚ) + 1 ≤ whole := by exact_mod_cast above
    calc
      |value - whole| ≤ 1 / 2 := rounds.near
      _ ≤ value - other := by linarith
      _ ≤ |value - other| := le_abs_self _

/-- A whole number above a value is not passed by rounding. -/
theorem le_of_le
    {bound : ℕ}
    (rounds : RoundsTo value whole)
    (above : value ≤ bound) :
    whole ≤ bound := by
  have closest := rounds.closest bound
  rw [abs_of_nonpos (sub_nonpos.mpr above)] at closest
  have distance := neg_le_abs (value - whole)
  have bounded : (whole : ℚ) ≤ bound := by linarith
  exact_mod_cast bounded

/-- A whole number below a value is not passed by rounding. -/
theorem le_of_ge
    {bound : ℕ}
    (rounds : RoundsTo value whole)
    (below : bound ≤ value) :
    bound ≤ whole := by
  have closest := rounds.closest bound
  rw [abs_of_nonneg (sub_nonneg.mpr below)] at closest
  have distance := le_abs_self (value - whole)
  have bounded : (bound : ℚ) ≤ whole := by linarith
  exact_mod_cast bounded

/-- What is no farther from the whole number rounds to it as well. -/
theorem of_nearer
    {other : ℚ}
    (rounds : RoundsTo value whole)
    (nearer : |other - whole| ≤ |value - whole|) :
    RoundsTo other whole where
  near := nearer.trans rounds.near
  tie := by
    intro half
    rw [half] at nearer
    exact rounds.tie (le_antisymm rounds.near nearer)

end RoundsTo

/-- A distance short of half a unit leaves no tie. -/
theorem RoundsTo.of_lt
    {value : ℚ}
    {whole : ℕ}
    (near : |value - whole| < 1 / 2) :
    RoundsTo value whole :=
  ⟨near.le, fun tie => absurd tie near.ne⟩

/-- The rounding of a quotient is the whole number that the quotient rounds to. -/
theorem roundsTo_roundHalfEven
    (numerator : ℕ)
    {denominator : ℕ}
    (positive : 0 < denominator) :
    RoundsTo (numerator / denominator) (roundHalfEven numerator denominator) := by
  have unit : (0 : ℚ) < denominator := by exact_mod_cast positive
  obtain ⟨above, below⟩ := roundHalfEven_error numerator positive
  have even := even_of_roundHalfEven_tie numerator positive
  generalize roundHalfEven numerator denominator = whole at *
  -- Distances in units are compared as counts of denominators.
  have distance : |(numerator : ℚ) / denominator - whole| =
      |(numerator : ℚ) - whole * denominator| / denominator := by
    rw [div_sub' unit.ne', abs_div, abs_of_pos unit, mul_comm]
  have aboveRational : 2 * ((whole : ℚ) * denominator) ≤ 2 * numerator + denominator := by
    exact_mod_cast above
  have belowRational : 2 * (numerator : ℚ) ≤ 2 * (whole * denominator) + denominator := by
    exact_mod_cast below
  constructor
  · rw [distance, div_le_iff₀ unit, abs_le]
    constructor <;> linarith
  · intro half
    rw [distance, div_eq_iff unit.ne'] at half
    apply Nat.even_iff.mpr
    apply even
    rcases abs_cases ((numerator : ℚ) - whole * denominator) with ⟨size, _⟩ | ⟨size, _⟩
    · right
      have equal : 2 * (numerator : ℚ) = 2 * (whole * denominator) + denominator := by
        linarith
      exact_mod_cast equal
    · left
      have equal : 2 * ((whole : ℚ) * denominator) = 2 * numerator + denominator := by
        linarith
      exact_mod_cast equal

/-- How a quotient is written does not matter. -/
theorem roundHalfEven_congr
    {numerator denominator otherNumerator otherDenominator : ℕ}
    (positive : 0 < denominator)
    (otherPositive : 0 < otherDenominator)
    (same : (numerator : ℚ) / denominator = otherNumerator / otherDenominator) :
    roundHalfEven numerator denominator =
      roundHalfEven otherNumerator otherDenominator := by
  have rounds := roundsTo_roundHalfEven numerator positive
  rw [same] at rounds
  exact rounds.unique (roundsTo_roundHalfEven otherNumerator otherPositive)

namespace Binary64

/-- A count with a smaller shift ends where 53 significant bits of a larger shift
begin. -/
private theorem significand_le_of_finer
    {significand shift coarser : ℕ}
    (bounded : significand < significandBound)
    (finer : shift < coarser) :
    significand * 2 ^ shift ≤ 2 ^ 52 * 2 ^ coarser := by
  calc
    significand * 2 ^ shift ≤ 2 ^ 53 * 2 ^ shift :=
      Nat.mul_le_mul_right _ (Nat.le_of_lt bounded)
    _ = 2 ^ 52 * 2 ^ (shift + 1) := by rw [Nat.pow_succ 2 shift]; omega
    _ ≤ 2 ^ 52 * 2 ^ coarser :=
      Nat.mul_le_mul_left _ (Nat.pow_le_pow_right Nat.two_pos finer)

/-- A grid that is coarser than a quantum starts at a power of two, which is not above
its counts. -/
private theorem gridStart_le
    {size : ℕ}
    (coarse : 0 < spacingShift size) :
    2 ^ 52 * 2 ^ spacingShift size ≤ size := by
  have leading : 52 + spacingShift size = size.log2 := by
    unfold spacingShift at coarse ⊢
    omega
  rw [← Nat.pow_add, leading]
  apply Nat.log2_self_le
  rintro rfl
  simp [spacingShift] at coarse

/-- The grid around a quotient holds every representable count but those in front
of the power of two that starts it. -/
private theorem onGrid_or_below
    {candidate : ℕ}
    (representable : Representable candidate)
    (size : ℕ) :
    2 ^ spacingShift size ∣ candidate ∨
      candidate ≤ 2 ^ 52 * 2 ^ spacingShift size ∧
        2 ^ 52 * 2 ^ spacingShift size ≤ size := by
  obtain ⟨significand, shift, bounded, rfl⟩ := representable.significant
  by_cases coarse : spacingShift size ≤ shift
  · exact .inl (Nat.dvd_mul_left_of_dvd (Nat.pow_dvd_pow 2 coarse) significand)
  · have finer : shift < spacingShift size := Nat.lt_of_not_le coarse
    exact .inr ⟨significand_le_of_finer bounded finer,
      gridStart_le (Nat.lt_of_le_of_lt (Nat.zero_le shift) finer)⟩

section Quotient

variable (numerator : ℕ) {denominator : ℕ} (positive : 0 < denominator)
include positive

/-- A distance on a grid is one in steps of the grid. -/
private theorem distance_onGrid
    {spacing : ℕ}
    (spacingPositive : 0 < spacing)
    (multiple : ℕ) :
    |(numerator : ℚ) / denominator - (multiple * spacing : ℕ)| =
      |(numerator : ℚ) / (denominator * spacing : ℕ) - multiple| * spacing := by
  have spacingRational : (0 : ℚ) < spacing := by exact_mod_cast spacingPositive
  have positiveRational : (0 : ℚ) < denominator := by exact_mod_cast positive
  have product : (numerator : ℚ) / denominator - (multiple * spacing : ℕ) =
      ((numerator : ℚ) / (denominator * spacing : ℕ) - multiple) * spacing := by
    push_cast
    field_simp
  rw [product, abs_mul, abs_of_pos spacingRational]

/-- No point of its grid is nearer to a quotient than the one it is rounded to. -/
private theorem nearest_closest_onGrid (multiple : ℕ) :
    |(numerator : ℚ) / denominator - nearest numerator denominator| ≤
      |(numerator : ℚ) / denominator -
        (multiple * 2 ^ spacingShift (numerator / denominator) : ℕ)| := by
  have spacingPositive := Nat.two_pow_pos (spacingShift (numerator / denominator))
  have rounds := roundsTo_roundHalfEven numerator (Nat.mul_pos positive spacingPositive)
  simp only [nearest]
  rw [distance_onGrid numerator positive spacingPositive,
    distance_onGrid numerator positive spacingPositive]
  exact mul_le_mul_of_nonneg_right (rounds.closest multiple) (Nat.cast_nonneg _)

/-- A rounded quotient is off by half a quantum at most, or by half of its 53rd
significant bit. -/
theorem nearest_error :
    |(numerator : ℚ) / denominator - nearest numerator denominator| ≤
      max 1 ((numerator : ℚ) / denominator / 2 ^ 52) / 2 := by
  have spacingPositive := Nat.two_pow_pos (spacingShift (numerator / denominator))
  have rounds := roundsTo_roundHalfEven numerator (Nat.mul_pos positive spacingPositive)
  have fine : ((2 ^ spacingShift (numerator / denominator) : ℕ) : ℚ) ≤
      max 1 ((numerator : ℚ) / denominator / 2 ^ 52) := by
    rcases Nat.eq_zero_or_pos (spacingShift (numerator / denominator)) with
      quantum | coarse
    · rw [quantum, Nat.pow_zero, Nat.cast_one]
      exact le_max_left _ _
    · apply le_max_of_le_right
      rw [le_div_iff₀ (by positivity), mul_comm]
      exact le_trans (by exact_mod_cast gridStart_le coarse) Nat.cast_div_le
  simp only [nearest]
  rw [distance_onGrid numerator positive spacingPositive]
  have scaled := mul_le_mul_of_nonneg_right rounds.near
    (Nat.cast_nonneg (α := ℚ) (2 ^ spacingShift (numerator / denominator)))
  linarith

/-- No representable count is nearer to a quotient than the one it is rounded to. -/
theorem nearest_closest
    {candidate : ℕ}
    (representable : Representable candidate) :
    |(numerator : ℚ) / denominator - nearest numerator denominator| ≤
      |(numerator : ℚ) / denominator - candidate| := by
  rcases onGrid_or_below representable (numerator / denominator) with
    onGrid | ⟨below, start⟩
  · obtain ⟨multiple, rfl⟩ := onGrid
    rw [Nat.mul_comm]
    exact nearest_closest_onGrid numerator positive multiple
  · -- The start of the grid lies between the candidate and the quotient.
    have fromStart := nearest_closest_onGrid numerator positive (2 ^ 52)
    generalize 2 ^ 52 * 2 ^ spacingShift (numerator / denominator) = gridStart at *
    have startBelow : (gridStart : ℚ) ≤ numerator / denominator :=
      le_trans (by exact_mod_cast start) Nat.cast_div_le
    have candidateBelow : (candidate : ℚ) ≤ gridStart := by exact_mod_cast below
    rw [abs_of_nonneg (sub_nonneg.mpr startBelow)] at fromStart
    rw [abs_of_nonneg (sub_nonneg.mpr (candidateBelow.trans startBelow))]
    linarith

/-- A representable count above a quotient is not passed by rounding. -/
theorem nearest_le
    {candidate : ℕ}
    (representable : Representable candidate)
    (above : (numerator : ℚ) / denominator ≤ candidate) :
    nearest numerator denominator ≤ candidate := by
  have closest := nearest_closest numerator positive representable
  rw [abs_of_nonpos (sub_nonpos.mpr above)] at closest
  have distance := neg_le_abs ((numerator : ℚ) / denominator - nearest numerator denominator)
  have bounded : (nearest numerator denominator : ℚ) ≤ candidate := by linarith
  exact_mod_cast bounded

/-- A representable count below a quotient is not passed by rounding. -/
theorem le_nearest
    {candidate : ℕ}
    (representable : Representable candidate)
    (below : (candidate : ℚ) ≤ numerator / denominator) :
    candidate ≤ nearest numerator denominator := by
  have closest := nearest_closest numerator positive representable
  rw [abs_of_nonneg (sub_nonneg.mpr below)] at closest
  have distance := le_abs_self ((numerator : ℚ) / denominator - nearest numerator denominator)
  have bounded : (candidate : ℚ) ≤ nearest numerator denominator := by linarith
  exact_mod_cast bounded

/-- How a quotient is written does not matter. -/
theorem nearest_congr
    {otherNumerator otherDenominator : ℕ}
    (otherPositive : 0 < otherDenominator)
    (same : (numerator : ℚ) / denominator = otherNumerator / otherDenominator) :
    nearest numerator denominator = nearest otherNumerator otherDenominator := by
  have sameSize : numerator / denominator = otherNumerator / otherDenominator := by
    rw [← Nat.floor_div_eq_div (K := ℚ), same, Nat.floor_div_eq_div]
  have shiftPositive := Nat.two_pow_pos (spacingShift (otherNumerator / otherDenominator))
  simp only [nearest, sameSize]
  rw [roundHalfEven_congr (Nat.mul_pos positive shiftPositive)
    (Nat.mul_pos otherPositive shiftPositive)]
  push_cast
  rw [← div_div, ← div_div, same]

end Quotient

/-- Between a representable count and the next one below it there is none. -/
theorem Representable.le_of_lt
    {candidate significand shift : ℕ}
    (representable : Representable candidate)
    (full : 2 ^ 52 < significand)
    (below : candidate < significand * 2 ^ shift) :
    candidate ≤ (significand - 1) * 2 ^ shift := by
  obtain ⟨own, ownShift, bounded, rfl⟩ := representable.significant
  by_cases coarse : shift ≤ ownShift
  · obtain ⟨gap, rfl⟩ := Nat.exists_eq_add_of_le' coarse
    rw [Nat.pow_add, ← Nat.mul_assoc] at below ⊢
    have fewer := Nat.lt_of_mul_lt_mul_right below
    exact Nat.mul_le_mul_right _ (Nat.le_pred_of_lt fewer)
  · exact Nat.le_trans (significand_le_of_finer bounded (Nat.lt_of_not_le coarse))
      (Nat.mul_le_mul_right _ (Nat.le_pred_of_lt full))

end Binary64

end Keypad
