import Keypad.Operator

/-!
Operations that have no number for their result.

Rounding never makes NaN, so it comes from zeros and infinities alone: from
infinities that cancel each other, from an infinity times zero, from a quotient
of infinities, and from a remainder of an infinity or by zero.  Any other
operation on numbers is a number, an infinite one at worst.

Owns:
- infinities, and the indeterminate operations;
- the operands that make a result NaN, for each operator.

Main statement: `Operator.result_eq_nan_iff`.
-/

namespace Keypad

namespace Binary64

def isInfinite : Binary64 → Bool
  | .infinite _ => true
  | _ => false

private theorem round_ne_nan (negative : Bool) (numerator denominator : Nat) :
    round negative numerator denominator ≠ .nan := by
  unfold round
  split
  · simp
  · simp

/-- A sum is open when its summands are infinities of different signs. -/
theorem add_eq_nan_iff (left right : Binary64) :
    left.add right = .nan ↔
      left = .nan ∨ right = .nan ∨
        ∃ negative, left = .infinite negative ∧ right = .infinite (!negative) := by
  cases left with
  | nan => simp
  | infinite leftNegative =>
      cases right with
      | nan => simp
      | finite _ _ _ => simp [add]
      | infinite rightNegative => cases leftNegative <;> cases rightNegative <;> simp [add]
  | finite leftNegative left leftRepresentable =>
      cases right with
      | nan => simp
      | infinite _ => simp [add]
      | finite rightNegative right rightRepresentable =>
          simp only [add]
          split
          · simp [signedZero]
          · simp [round_ne_nan]

private theorem sub_eq_nan_iff (left right : Binary64) :
    left.sub right = .nan ↔
      left = .nan ∨ right = .nan ∨
        ∃ negative, left = .infinite negative ∧ right = .infinite negative := by
  rw [sub, add_eq_nan_iff]
  cases right with
  | nan => simp [neg]
  | infinite negative => simp [neg]
  | finite negative quanta representable => simp [neg]

/-- A product is open when one factor is infinite and the other one zero. -/
theorem mul_eq_nan_iff (left right : Binary64) :
    left.mul right = .nan ↔
      left = .nan ∨ right = .nan ∨
        (left.isInfinite = true ∧ right.isZero = true) ∨
          left.isZero = true ∧ right.isInfinite = true := by
  cases left with
  | nan => simp
  | infinite _ =>
      cases right with
      | nan => simp
      | infinite _ => simp [mul, isZero]
      | finite _ right _ =>
          by_cases nothing : right = 0
          · simp [mul, isInfinite, isZero, nothing]
          · simp [mul, isInfinite, isZero, nothing]
  | finite _ left _ =>
      cases right with
      | nan => simp
      | infinite _ =>
          by_cases nothing : left = 0
          · simp [mul, isInfinite, isZero, nothing]
          · simp [mul, isInfinite, isZero, nothing]
      | finite _ right _ => simp [mul, isInfinite, round_ne_nan]

/-- Apart from zero divisors, a quotient is open when both parts are infinite. -/
theorem div_eq_nan_iff
    {right : Binary64}
    (divisor : right.isZero = false)
    (left : Binary64) :
    left.div right = .nan ↔
      left = .nan ∨ right = .nan ∨ left.isInfinite = true ∧ right.isInfinite = true := by
  cases left with
  | nan => simp
  | infinite _ => cases right <;> simp [div, isInfinite]
  | finite _ left _ =>
      cases right with
      | nan => simp
      | infinite _ => simp [div, isInfinite, signedZero]
      | finite _ right _ =>
          have something : right ≠ 0 := by simpa [isZero] using divisor
          simp [div, isInfinite, something, round_ne_nan]

/-- Only a zero divisor, an infinite dividend or NaN make a remainder NaN. -/
theorem rem_eq_nan_iff (left right : Binary64) :
    left.rem right = .nan ↔
      left = .nan ∨ right = .nan ∨ left.isInfinite = true ∨ right.isZero = true := by
  cases left with
  | finite negative left _ =>
      cases right with
      | finite _ right _ =>
          rcases Nat.eq_zero_or_pos right with rfl | positive
          · simp [rem, isZero]
          · simp [rem, isInfinite, isZero, positive, Nat.ne_of_gt positive]
      | infinite _ => simp [rem, isInfinite, isZero]
      | nan => simp
  | infinite _ => cases right <;> simp [rem, isInfinite]
  | nan => simp

end Binary64

namespace Operator

/-- The operations on numbers that leave their result open, divisions by zero
apart. -/
inductive Indeterminate : Operator → Binary64 → Binary64 → Prop where
  | oppositeInfinities (negative : Bool) :
      Indeterminate .add (.infinite negative) (.infinite !negative)
  | equalInfinities (negative : Bool) :
      Indeterminate .sub (.infinite negative) (.infinite negative)
  | infinityTimesZero {left right : Binary64}
      (infinite : left.isInfinite = true) (zero : right.isZero = true) :
      Indeterminate .mul left right
  | zeroTimesInfinity {left right : Binary64}
      (zero : left.isZero = true) (infinite : right.isInfinite = true) :
      Indeterminate .mul left right
  | infinityByInfinity {left right : Binary64}
      (dividend : left.isInfinite = true) (divisor : right.isInfinite = true) :
      Indeterminate .div left right
  | remainderOfInfinity {left : Binary64} (right : Binary64)
      (infinite : left.isInfinite = true) :
      Indeterminate .rem left right
  | remainderByZero (left : Binary64) {right : Binary64}
      (zero : right.isZero = true) :
      Indeterminate .rem left right

/-- An operator makes NaN of NaN and of indeterminate operands, and of nothing
else but two zeros that it cannot divide. -/
theorem result_eq_nan_iff
    {op : Operator}
    {right : Binary64}
    (divides : ¬ (op = .div ∧ right.isZero = true))
    (left : Binary64) :
    op.result left right = .nan ↔
      left = .nan ∨ right = .nan ∨ op.Indeterminate left right := by
  cases op with
  | add =>
      rw [result, Binary64.add_eq_nan_iff]
      refine or_congr_right (or_congr_right ⟨?_, ?_⟩)
      · rintro ⟨negative, rfl, rfl⟩
        exact .oppositeInfinities negative
      · intro indeterminate
        cases indeterminate with
        | oppositeInfinities negative => exact ⟨negative, rfl, rfl⟩
  | sub =>
      rw [result, Binary64.sub_eq_nan_iff]
      refine or_congr_right (or_congr_right ⟨?_, ?_⟩)
      · rintro ⟨negative, rfl, rfl⟩
        exact .equalInfinities negative
      · intro indeterminate
        cases indeterminate with
        | equalInfinities negative => exact ⟨negative, rfl, rfl⟩
  | mul =>
      rw [result, Binary64.mul_eq_nan_iff]
      refine or_congr_right (or_congr_right ⟨?_, ?_⟩)
      · rintro (⟨infinite, zero⟩ | ⟨zero, infinite⟩)
        · exact .infinityTimesZero infinite zero
        · exact .zeroTimesInfinity zero infinite
      · intro indeterminate
        cases indeterminate with
        | infinityTimesZero infinite zero => exact .inl ⟨infinite, zero⟩
        | zeroTimesInfinity zero infinite => exact .inr ⟨zero, infinite⟩
  | div =>
      have divisor : right.isZero = false := by simpa using divides
      rw [result, Binary64.div_eq_nan_iff divisor]
      refine or_congr_right (or_congr_right ⟨?_, ?_⟩)
      · rintro ⟨dividend, divisor⟩
        exact .infinityByInfinity dividend divisor
      · intro indeterminate
        cases indeterminate with
        | infinityByInfinity dividend divisor => exact ⟨dividend, divisor⟩
  | rem =>
      rw [result, Binary64.rem_eq_nan_iff]
      refine or_congr_right (or_congr_right ⟨?_, ?_⟩)
      · rintro (infinite | zero)
        · exact .remainderOfInfinity right infinite
        · exact .remainderByZero left zero
      · intro indeterminate
        cases indeterminate with
        | remainderOfInfinity _ infinite => exact .inl infinite
        | remainderByZero _ zero => exact .inr zero

end Operator

end Keypad
