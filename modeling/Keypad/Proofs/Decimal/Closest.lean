import Keypad.Proofs.Decimal.Nearest

/-!
Numbers that decimals are read as.

What is read is the closest number of the format, as far as it is in range: the sign
is that of the decimal, and the count of quanta is the closest one.

Owns:
- the count of quanta that a decimal is read as, with its distance to the decimal;
- the distance of a decimal to the number that it is read as.

Does not own: the texts of decimals.

Main statement: `ofDecimal_closest`.
-/

namespace Keypad.Binary64

/-- The count of quanta that a decimal is read as; the range is not limited here. -/
def readQuanta (decimal : Decimal) : ℕ :=
  nearest (decimal.quotient.1 * quantaPerUnit) decimal.quotient.2

section Count

variable (decimal : Decimal) {candidate : ℕ} (representable : Representable candidate)

/-- The distance in quanta is limited by the quantum and by the 53rd significant bit. -/
theorem readQuanta_error :
    |decimal.magnitude * quantaPerUnit - readQuanta decimal| ≤
      max 1 (decimal.magnitude * quantaPerUnit / 2 ^ 52) / 2 := by
  have error := nearest_error (decimal.quotient.1 * quantaPerUnit) decimal.quotient_den_pos
  rwa [quanta_of_quotient] at error

include representable

theorem readQuanta_closest :
    |decimal.magnitude - readQuanta decimal / quantaPerUnit| ≤
      |decimal.magnitude - candidate / quantaPerUnit| := by
  have unit : (0 : ℚ) < quantaPerUnit := by exact_mod_cast quantaPerUnit_pos
  have closest := nearest_closest (decimal.quotient.1 * quantaPerUnit)
    decimal.quotient_den_pos representable
  rw [quanta_of_quotient] at closest
  have inUnits (count : ℕ) : |decimal.magnitude - count / quantaPerUnit| =
      |decimal.magnitude * quantaPerUnit - count| / quantaPerUnit := by
    rw [← abs_of_pos unit, ← abs_div, abs_of_pos unit, sub_div,
      mul_div_cancel_right₀ _ unit.ne']
  rw [inUnits, inUnits]
  exact div_le_div_of_nonneg_right closest unit.le

/-- A representable count above a decimal is not passed by reading it. -/
theorem readQuanta_le (above : decimal.magnitude ≤ candidate / quantaPerUnit) :
    readQuanta decimal ≤ candidate := by
  have unit : (0 : ℚ) < quantaPerUnit := by exact_mod_cast quantaPerUnit_pos
  apply nearest_le _ decimal.quotient_den_pos representable
  rw [quanta_of_quotient]
  exact (le_div_iff₀ unit).mp above

/-- A representable count below a decimal is not passed by reading it. -/
theorem le_readQuanta (below : candidate / quantaPerUnit ≤ decimal.magnitude) :
    candidate ≤ readQuanta decimal := by
  have unit : (0 : ℚ) < quantaPerUnit := by exact_mod_cast quantaPerUnit_pos
  apply le_nearest _ decimal.quotient_den_pos representable
  rw [quanta_of_quotient]
  exact (div_le_iff₀ unit).mp below

end Count

private theorem representable_readQuanta
    {decimal : Decimal}
    (inRange : readQuanta decimal < overflowBound) :
    Representable (readQuanta decimal) where
  inRange := inRange
  significant := nearest_significant _ _

/-- Only the value of a decimal matters to the count. -/
theorem readQuanta_congr
    {left right : Decimal}
    (same : left.magnitude = right.magnitude) :
    readQuanta left = readQuanta right := by
  apply nearest_congr _ left.quotient_den_pos right.quotient_den_pos
  rw [quanta_of_quotient, quanta_of_quotient, same]

/-- A larger decimal is not read as a smaller count. -/
theorem readQuanta_mono
    {left right : Decimal}
    (inRange : readQuanta left < overflowBound)
    (otherInRange : readQuanta right < overflowBound)
    (ordered : left.magnitude ≤ right.magnitude) :
    readQuanta left ≤ readQuanta right := by
  have unit : (0 : ℚ) < quantaPerUnit := by exact_mod_cast quantaPerUnit_pos
  rcases ordered.lt_or_eq with less | same
  · by_contra crossed
    have nearer := readQuanta_closest left (representable_readQuanta otherInRange)
    have otherNearer := readQuanta_closest right (representable_readQuanta inRange)
    have lower : (readQuanta right : ℚ) / quantaPerUnit < readQuanta left / quantaPerUnit :=
      div_lt_div_of_pos_right (by exact_mod_cast Nat.lt_of_not_le crossed) unit
    have fromBelow := middle_le_of_nearer nearer lower
    have fromAbove := le_middle_of_nearer otherNearer lower
    linarith
  · exact (readQuanta_congr same).le

variable {decimal : Decimal}

/-- A count in range is the number that is read. -/
theorem ofDecimal_of_inRange (inRange : readQuanta decimal < overflowBound) :
    ∃ again, ofDecimal decimal = .finite decimal.negative (readQuanta decimal) again := by
  refine ⟨representable_readQuanta inRange, ?_⟩
  rw [ofDecimal, round]
  exact dif_pos inRange

private theorem inRange_of_isFinite (finite : (ofDecimal decimal).isFinite = true) :
    readQuanta decimal < overflowBound := by
  rw [ofDecimal, round] at finite
  split at finite
  · rename_i inRange
    exact inRange
  · exact absurd finite Bool.false_ne_true

/-- No finite number is closer to a decimal than the one that it is read as. -/
theorem ofDecimal_closest
    (finite : (ofDecimal decimal).isFinite = true)
    {other : Binary64}
    (otherFinite : other.isFinite = true) :
    |decimal.value - (ofDecimal decimal).value| ≤ |decimal.value - other.value| := by
  obtain ⟨again, isRead⟩ := ofDecimal_of_inRange (inRange_of_isFinite finite)
  obtain ⟨negative, quanta, representable, rfl⟩ := exists_of_isFinite otherFinite
  have closest := readQuanta_closest decimal representable
  have sameSign : |decimal.value - (ofDecimal decimal).value| =
      |decimal.magnitude - readQuanta decimal / quantaPerUnit| := by
    rw [isRead, value_finite, Decimal.value_eq]
    cases decimal.negative with
    | false => rw [if_neg Bool.false_ne_true, if_neg Bool.false_ne_true]
    | true => rw [if_pos rfl, if_pos rfl, ← abs_neg, neg_sub_neg, neg_sub]
  calc
    |decimal.value - (ofDecimal decimal).value|
        ≤ |decimal.magnitude - quanta / quantaPerUnit| := sameSign.trans_le closest
    _ = |(|decimal.value| - |(Binary64.finite negative quanta representable).value|)| := by
      rw [abs_value, decimal.abs_value]
    _ ≤ |decimal.value - (Binary64.finite negative quanta representable).value| :=
      abs_abs_sub_abs_le _ _

end Keypad.Binary64
