import Keypad.Proofs.NumberFormat.Canonical

/-!
The order of results.

Rounding to the points of one grid keeps the order of values.  Where one of two values
is written with an exponent and the other one without, they are not rounded to the same
grid; but the bounds of the two notations keep them apart, and each bound has a power of
ten beside it that neither of them passes when it is rounded.  For the lower bound that
is a millionth, which lies above the bound: a value between the two is rounded up to it,
as long as the last place is no finer than the gap.

Owns:
- how near the lower bound is to its decimal;
- the points that both grids have;
- the decimal that a value is written as, and its order.

Does not own: the order within one grid.

Main statement: `format_mono`.
-/

namespace Keypad.NumberFormat

/-! ## Values and the bounds -/

/-- The lower bound is less than half a unit of the 22nd place below its decimal. -/
private theorem scientificBelow_near_millionth :
    2 * (10 ^ (-6 : ℤ) - scientificBelow.value) < 10 ^ (-22 : ℤ) := by
  rw [value_scientificBelow_eq_div]
  norm_num

private theorem betweenBounds_neg (value : ℚ) : BetweenBounds (-value) ↔ BetweenBounds value := by
  rw [BetweenBounds, BetweenBounds, neg_eq_zero, abs_neg]

private theorem BetweenBounds.abs_le
    {value : ℚ}
    (between : BetweenBounds value) :
    |value| ≤ 10 ^ (12 : ℤ) := by
  rcases between with rfl | ⟨_, small⟩
  · rw [abs_zero]
    positivity
  · rwa [value_scientificAbove_eq_zpow] at small

private theorem not_betweenBounds_iff (value : ℚ) :
    ¬ BetweenBounds value ↔
      value ≠ 0 ∧ (|value| < scientificBelow.value ∨ 10 ^ (12 : ℤ) < |value|) := by
  rw [BetweenBounds, value_scientificAbove_eq_zpow, not_or, not_and_or, not_le, not_le]

/-! ## Points of both grids -/

/-- A point that values are rounded to in both notations. -/
structure Shared (places : ℕ) (point : ℚ) : Prop where
  isMultiple : point ∈ multiples (10 ^ (-(places : ℤ)))
  isShort : point ∈ significant 7

namespace Shared

variable {places : ℕ} {point : ℚ}

private theorem zero (places : ℕ) : Shared places 0 where
  isMultiple := ⟨0, by push_cast; ring⟩
  isShort := ⟨0, 0, by norm_num, by push_cast; ring⟩

private theorem power
    {exponent : ℤ}
    (coarse : -(places : ℤ) ≤ exponent) :
    Shared places (10 ^ exponent) where
  isMultiple := by
    obtain ⟨gap, rfl⟩ := Int.le.dest coarse
    refine ⟨10 ^ gap, ?_⟩
    rw [zpow_add₀ (by norm_num), zpow_natCast, mul_comm]
    push_cast
    rfl
  isShort := zpow_mem_significant 6 exponent

private theorem neg (shared : Shared places point) : Shared places (-point) where
  isMultiple := neg_mem_multiples shared.isMultiple
  isShort := neg_mem_significant shared.isShort

end Shared

/-! ## Written decimals -/

/-- The decimal that a value is written as, by the notation that the value has. -/
structure WrittenAs (places : ℕ) (value point : ℚ) : Prop where
  between : BetweenBounds value →
    NearestEven (multiples (10 ^ (-(places : ℤ)))) (multiples (2 * 10 ^ (-(places : ℤ))))
      value point
  beyond : ¬ BetweenBounds value →
    NearestEven (significant 7) (evenSignificant 7) value point

/-- The text of a finite number denotes the decimal that its value is written as. -/
theorem exists_writtenAs
    {number : Binary64}
    {precision : ℤ}
    (finite : number.isFinite = true)
    (nonnegative : 0 ≤ precision)
    (usable : precision ≤ precisionLimit) :
    ∃ text decimal, format precision number = .ok text ∧
      Decimal.read? text = some decimal ∧
      WrittenAs precision.toNat number.value decimal.value := by
  by_cases between : BetweenBounds number.value
  · obtain ⟨text, written, positionalText⟩ :=
      format_between finite nonnegative usable between
    obtain ⟨decimal, denoted, nearest⟩ := positionalText.nearest
    exact ⟨text, decimal, written, denoted, fun _ => nearest, (absurd between ·)⟩
  · obtain ⟨text, written, scientificText⟩ := format_beyond finite between
    obtain ⟨decimal, denoted, nearest⟩ := scientificText.nearest
    exact ⟨text, decimal, written, denoted, (absurd · between), fun _ => nearest⟩

namespace WrittenAs

variable {places : ℕ} {value point bound : ℚ}

private theorem neg (written : WrittenAs places value point) :
    WrittenAs places (-value) (-point) where
  between between :=
    (written.between ((betweenBounds_neg value).mp between)).withSign true
      (fun _ => neg_mem_multiples) fun _ => neg_mem_multiples
  beyond beyond :=
    (written.beyond (mt (betweenBounds_neg value).mpr beyond)).withSign true
      (fun _ => neg_mem_significant) fun _ => neg_mem_evenSignificant

private theorem le_of_le
    (written : WrittenAs places value point)
    (shared : Shared places bound)
    (above : value ≤ bound) :
    point ≤ bound := by
  by_cases between : BetweenBounds value
  · exact (written.between between).le_of_le shared.isMultiple above
  · exact (written.beyond between).le_of_le shared.isShort above

private theorem le_of_ge
    (written : WrittenAs places value point)
    (shared : Shared places bound)
    (below : bound ≤ value) :
    bound ≤ point := by
  by_cases between : BetweenBounds value
  · exact (written.between between).le_of_ge shared.isMultiple below
  · exact (written.beyond between).le_of_ge shared.isShort below

section Fine

variable (millionths : 6 ≤ places) (coarse : places ≤ 22)
include millionths coarse

/-- From the lower bound on no value is written as less than the decimal of the bound:
the multiple in front of it is farther away than the gap is wide. -/
private theorem millionth_le
    (nearest : NearestEven (multiples (10 ^ (-(places : ℤ))))
      (multiples (2 * 10 ^ (-(places : ℤ)))) value point)
    (aboveBound : scientificBelow.value ≤ value) :
    10 ^ (-6 : ℤ) ≤ point := by
  have shared : Shared places (10 ^ (-6 : ℤ)) := .power (by omega)
  by_contra below
  have middle := nearest.le_middle shared.isMultiple (lt_of_not_ge below)
  have apart := add_unit_le_of_lt (zpow_pos (by norm_num) _) nearest.onGrid
    shared.isMultiple (lt_of_not_ge below)
  have unit : (10 : ℚ) ^ (-22 : ℤ) ≤ 10 ^ (-(places : ℤ)) :=
    zpow_le_zpow_right₀ (by norm_num) (by omega)
  have near := scientificBelow_near_millionth
  linarith

/-- What is written with an exponent does not overtake what is written without one. -/
private theorem le_across
    {otherValue otherPoint : ℚ}
    (written : WrittenAs places value point)
    (otherWritten : WrittenAs places otherValue otherPoint)
    (ordered : value < otherValue)
    (beyond : ¬ BetweenBounds value)
    (between : BetweenBounds otherValue) :
    point ≤ otherPoint := by
  have inside := abs_le.mp between.abs_le
  obtain ⟨nonzero, small | large⟩ := (not_betweenBounds_iff value).mp beyond
  · rcases lt_or_gt_of_ne nonzero with negative | positive
    · -- Zero lies in between, since the other value is none of the small ones.
      have otherNonnegative : 0 ≤ otherValue := by
        by_contra otherNegative
        have nonzeroOther : otherValue ≠ 0 := (lt_of_not_ge otherNegative).ne
        have notSmall := (between.resolve_left nonzeroOther).1
        rw [abs_of_neg (lt_of_not_ge otherNegative)] at notSmall
        linarith [(abs_lt.mp small).1]
      exact (written.le_of_le (.zero places) negative.le).trans
        (otherWritten.le_of_ge (.zero places) otherNonnegative)
    · have otherPositive := positive.trans ordered
      have notSmall := (between.resolve_left otherPositive.ne').1
      rw [abs_of_pos otherPositive] at notSmall
      have belowMillionth : value ≤ 10 ^ (-6 : ℤ) :=
        (abs_lt.mp small).2.le.trans scientificBelow_le_millionth
      exact (written.le_of_le (.power (by omega)) belowMillionth).trans
        (millionth_le millionths coarse (otherWritten.between between) notSmall)
  · rcases lt_abs.mp large with above | below
    · linarith
    · have shared : Shared places (-10 ^ (12 : ℤ)) := (Shared.power (by omega)).neg
      exact (written.le_of_le shared (by linarith)).trans
        (otherWritten.le_of_ge shared inside.1)

private theorem mono
    {otherValue otherPoint : ℚ}
    (written : WrittenAs places value point)
    (otherWritten : WrittenAs places otherValue otherPoint)
    (ordered : value < otherValue) :
    point ≤ otherPoint := by
  by_cases between : BetweenBounds value
  · by_cases otherBetween : BetweenBounds otherValue
    · exact (written.between between).mono (otherWritten.between otherBetween) ordered
    · have mirrored := otherWritten.neg.le_across millionths coarse written.neg
        (neg_lt_neg ordered) (mt (betweenBounds_neg otherValue).mp otherBetween)
        ((betweenBounds_neg value).mpr between)
      exact neg_le_neg_iff.mp mirrored
  · by_cases otherBetween : BetweenBounds otherValue
    · exact written.le_across millionths coarse otherWritten ordered between otherBetween
    · exact (written.beyond between).mono (otherWritten.beyond otherBetween) ordered

end Fine

end WrittenAs

/-! ## Texts -/

/-- A larger number is not written as a smaller decimal, in whichever of the two
notations each of them is written; equal numbers have one text. -/
theorem format_mono
    {precision : ℤ}
    {lower upper : Binary64}
    (millionths : 6 ≤ precision)
    (coarse : precision ≤ 22)
    (lowerFinite : lower.isFinite = true)
    (upperFinite : upper.isFinite = true)
    (ordered : lower.value ≤ upper.value) :
    ∃ lowerText upperText lowerDecimal upperDecimal,
      format precision lower = .ok lowerText ∧ format precision upper = .ok upperText ∧
        Decimal.read? lowerText = some lowerDecimal ∧
        Decimal.read? upperText = some upperDecimal ∧
        lowerDecimal.value ≤ upperDecimal.value := by
  have usable : precision ≤ precisionLimit := coarse.trans (by decide)
  obtain ⟨lowerText, lowerDecimal, lowerFormatted, lowerRead, lowerWritten⟩ :=
    exists_writtenAs lowerFinite (by omega) usable
  obtain ⟨upperText, upperDecimal, upperFormatted, upperRead, upperWritten⟩ :=
    exists_writtenAs upperFinite (by omega) usable
  refine ⟨lowerText, upperText, lowerDecimal, upperDecimal, lowerFormatted, upperFormatted,
    lowerRead, upperRead, ?_⟩
  rcases ordered.lt_or_eq with less | same
  · exact lowerWritten.mono (by omega) (by omega) upperWritten less
  · -- Equal numbers have one text.
    have sameNumber := Binary64.unsignZero_of_value_eq lowerFinite upperFinite same
    rw [← format_unsignZero, sameNumber, format_unsignZero, upperFormatted] at lowerFormatted
    obtain rfl := Except.ok.inj lowerFormatted
    rw [upperRead] at lowerRead
    rw [Option.some.inj lowerRead]

/-- With 22 places the largest number below the lower bound and the bound itself are
written in different notations, and denote the same millionth. -/
theorem format_mono_across_lower_bound :
    let lower := Binary64.ofDecimal ⟨false, 9999999999999997, -22⟩
    let upper := scientificBelow
    (6 : ℤ) ≤ 22 ∧ (22 : ℤ) ≤ 22 ∧ lower.isFinite = true ∧ upper.isFinite = true ∧
      lower.value ≤ upper.value ∧
      format 22 lower = .ok "1e-6".toList ∧ format 22 upper = .ok "0.000001".toList ∧
      ∃ lowerText upperText lowerDecimal upperDecimal,
        format 22 lower = .ok lowerText ∧ format 22 upper = .ok upperText ∧
          Decimal.read? lowerText = some lowerDecimal ∧
          Decimal.read? upperText = some upperDecimal ∧
          lowerDecimal.value ≤ upperDecimal.value := by
  intro lower upper
  have finite : lower.isFinite = true := by decide +kernel
  have upperFinite : upper.isFinite = true := by decide +kernel
  have ordered : lower.value ≤ upper.value := by
    have ranked : lower.rank = some (4722366482869644 * 2 ^ 1002 : ℕ) := by decide +kernel
    have below : 4722366482869644 * 2 ^ 1002 ≤ smallestPositional := by decide +kernel
    rw [value_of_rank finite ranked, value_scientificBelow]
    exact div_le_div_of_nonneg_right (Nat.cast_le.mpr below) (Nat.cast_nonneg _)
  exact ⟨by decide, by decide, finite, upperFinite, ordered, by decide +kernel,
    by decide +kernel, format_mono (by decide) (by decide) finite upperFinite ordered⟩

end Keypad.NumberFormat
