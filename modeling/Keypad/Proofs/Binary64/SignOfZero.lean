import Keypad.Operator

/-!
What the sign of a zero does to an operation.

An operand that is a zero passes its sign to a result only if that is a zero
itself, unless it is divided by.  So the sign of a zero may be dropped before an
operation if it is dropped afterwards.

Owns: that law, for each operator and either operand.

Main statement: `Operator.unsignZero_result`.
-/

namespace Keypad

namespace Binary64

theorem eq_signedZero_of_isZero
    {number : Binary64}
    (isZero : number.isZero = true) :
    ∃ negative, number = signedZero negative := by
  cases number with
  | finite negative quanta representable =>
      have none : quanta = 0 := by simpa [Binary64.isZero] using isZero
      subst none
      exact ⟨negative, rfl⟩
  | infinite negative => contradiction
  | nan => contradiction

@[simp] theorem unsignZero_finite_zero
    (negative : Bool)
    (representable : Representable 0) :
    unsignZero (.finite negative 0 representable) = zero := by
  simp [unsignZero, isZero]

theorem unsignZero_signedZero (negative : Bool) :
    (signedZero negative).unsignZero = zero :=
  unsignZero_finite_zero negative representable_zero

theorem unsignZero_of_not_isZero
    {number : Binary64}
    (notZero : number.isZero = false) :
    number.unsignZero = number := by
  simp [unsignZero, notZero]

@[simp] theorem isZero_unsignZero (number : Binary64) :
    number.unsignZero.isZero = number.isZero := by
  cases isZero : number.isZero with
  | false => rw [unsignZero_of_not_isZero isZero, isZero]
  | true =>
      obtain ⟨negative, rfl⟩ := eq_signedZero_of_isZero isZero
      rw [unsignZero_signedZero]
      exact isZero_signedZero false

private theorem withSign_zero (negative : Bool) : withSign negative 0 = 0 := by
  cases negative <;> rfl

/-! ## A zero on the left -/

theorem unsignZero_signedZero_add (negative : Bool) (right : Binary64) :
    ((signedZero negative).add right).unsignZero = right.unsignZero := by
  cases right with
  | infinite rightNegative => rfl
  | nan => rfl
  | finite rightNegative quanta representable =>
      simp only [signedZero, add, withSign_zero, Int.zero_add]
      by_cases nothing : quanta = 0
      · subst nothing
        rw [if_pos (withSign_zero rightNegative), unsignZero_finite_zero,
          unsignZero_finite_zero]
      · have size : (withSign rightNegative quanta).natAbs = quanta := by
          cases rightNegative <;> simp [withSign]
        have sign : decide (withSign rightNegative quanta < 0) = rightNegative := by
          cases rightNegative with
          | false => simp [withSign]
          | true =>
              rw [decide_eq_true_eq, withSign, if_pos rfl]
              omega
        have something : withSign rightNegative quanta ≠ 0 := by
          rw [← Int.natAbs_ne_zero, size]
          exact nothing
        rw [if_neg something, size, sign, round_of_representable _ representable]

private theorem unsignZero_signedZero_mul (negative other : Bool) (right : Binary64) :
    ((signedZero negative).mul right).unsignZero =
      ((signedZero other).mul right).unsignZero := by
  cases right with
  | finite => simp [signedZero, mul]
  | infinite => rfl
  | nan => rfl

private theorem unsignZero_signedZero_div (negative other : Bool) (right : Binary64) :
    ((signedZero negative).div right).unsignZero =
      ((signedZero other).div right).unsignZero := by
  cases right with
  | finite rightNegative quanta representable =>
      by_cases nothing : quanta = 0
      · simp [signedZero, div, nothing]
      · simp [signedZero, div, nothing]
  | infinite => simp [signedZero, div]
  | nan => rfl

private theorem unsignZero_signedZero_rem (negative other : Bool) (right : Binary64) :
    ((signedZero negative).rem right).unsignZero =
      ((signedZero other).rem right).unsignZero := by
  cases right with
  | finite rightNegative quanta representable =>
      by_cases something : 0 < quanta
      · simp [signedZero, rem, something]
      · simp [signedZero, rem, something]
  | infinite => simp [signedZero, rem]
  | nan => rfl

/-! ## A zero on the right -/

private theorem unsignZero_add_signedZero (left : Binary64) (negative other : Bool) :
    (left.add (signedZero negative)).unsignZero =
      (left.add (signedZero other)).unsignZero := by
  cases left with
  | infinite => rfl
  | nan => rfl
  | finite leftNegative quanta representable =>
      simp only [signedZero, add, withSign_zero, Int.add_zero]
      by_cases nothing : withSign leftNegative quanta = 0
      · rw [if_pos nothing, if_pos nothing, unsignZero_finite_zero,
          unsignZero_finite_zero]
      · rw [if_neg nothing, if_neg nothing]

private theorem unsignZero_mul_signedZero (left : Binary64) (negative other : Bool) :
    (left.mul (signedZero negative)).unsignZero =
      (left.mul (signedZero other)).unsignZero := by
  cases left with
  | finite => simp [signedZero, mul]
  | infinite => rfl
  | nan => rfl

private theorem rem_signedZero (left : Binary64) (negative : Bool) :
    left.rem (signedZero negative) = .nan := by
  cases left <;> rfl

end Binary64

namespace Operator

open Binary64

private theorem unsignZero_result_left
    (op : Operator)
    (negative other : Bool)
    (right : Binary64) :
    (op.result (signedZero negative) right).unsignZero =
      (op.result (signedZero other) right).unsignZero := by
  cases op with
  | add =>
      exact (unsignZero_signedZero_add negative right).trans
        (unsignZero_signedZero_add other right).symm
  | sub =>
      exact (unsignZero_signedZero_add negative right.neg).trans
        (unsignZero_signedZero_add other right.neg).symm
  | mul => exact unsignZero_signedZero_mul negative other right
  | div => exact unsignZero_signedZero_div negative other right
  | rem => exact unsignZero_signedZero_rem negative other right

private theorem unsignZero_result_right
    {op : Operator}
    (notDivision : op ≠ .div)
    (left : Binary64)
    (negative other : Bool) :
    (op.result left (signedZero negative)).unsignZero =
      (op.result left (signedZero other)).unsignZero := by
  cases op with
  | add => exact unsignZero_add_signedZero left negative other
  | sub => exact unsignZero_add_signedZero left (!negative) (!other)
  | mul => exact unsignZero_mul_signedZero left negative other
  | div => contradiction
  | rem =>
      show (left.rem _).unsignZero = (left.rem _).unsignZero
      rw [rem_signedZero, rem_signedZero]

/-- Dropping the signs of zero operands changes no more of a result than
dropping its own, unless a zero is divided by. -/
theorem unsignZero_result
    {op : Operator}
    {right : Binary64}
    (divides : ¬ (op = .div ∧ right.isZero = true))
    (left : Binary64) :
    (op.result left.unsignZero right.unsignZero).unsignZero =
      (op.result left right).unsignZero := by
  have onLeft (right : Binary64) :
      (op.result left.unsignZero right).unsignZero =
        (op.result left right).unsignZero := by
    cases isZero : left.isZero with
    | false => rw [unsignZero_of_not_isZero isZero]
    | true =>
        obtain ⟨negative, rfl⟩ := eq_signedZero_of_isZero isZero
        rw [unsignZero_signedZero]
        exact unsignZero_result_left op false negative right
  rw [onLeft]
  cases isZero : right.isZero with
  | false => rw [unsignZero_of_not_isZero isZero]
  | true =>
      have notDivision : op ≠ .div := fun isDivision => divides ⟨isDivision, isZero⟩
      obtain ⟨negative, rfl⟩ := eq_signedZero_of_isZero isZero
      rw [unsignZero_signedZero]
      exact unsignZero_result_right notDivision left false negative

end Operator

end Keypad
