import Keypad.Decimal.Numeral
import Keypad.Proofs.Binary64.SignOfZero

/-!
What a minus sign does to an operation.

The format is symmetric, and so is rounding.  A product, a quotient and a
remainder pass the sign of their left operand on, and a difference from zero is
the negated number but for the sign of a zero.

Owns: these laws, for numbers and for the operators that bind tighter.

Main statements: `Operator.result_neg_left`, `unsignZero_zero_sub_neg`.
-/

namespace Keypad

namespace Binary64

private theorem neg_round (negative : Bool) (numerator denominator : Nat) :
    (round negative numerator denominator).neg =
      round (!negative) numerator denominator := by
  unfold round
  split <;> rfl

theorem neg_finite
    (negative : Bool)
    {quanta : Nat}
    (representable : Representable quanta) :
    (Binary64.finite negative quanta representable).neg =
      .finite (!negative) quanta representable :=
  rfl

/-- A decimal with the other sign rounds to the number with the other sign. -/
theorem neg_ofDecimal (decimal : Decimal) :
    (ofDecimal decimal).neg =
      ofDecimal ⟨!decimal.negative, decimal.coefficient, decimal.exponent⟩ :=
  neg_round _ _ _

/-! ## A minus sign on the left -/

private theorem neg_mul (left right : Binary64) :
    left.neg.mul right = (left.mul right).neg := by
  cases left with
  | nan => rw [neg, nan_mul, neg]
  | infinite leftNegative =>
      cases right with
      | nan => rfl
      | infinite rightNegative => simp [neg, mul]
      | finite rightNegative right representable =>
          by_cases nothing : right = 0
          · simp [neg, mul, nothing]
          · simp [neg, mul, nothing]
  | finite leftNegative left leftRepresentable =>
      cases right with
      | nan => rfl
      | infinite rightNegative =>
          by_cases nothing : left = 0
          · simp [neg, mul, nothing]
          · simp [neg, mul, nothing]
      | finite rightNegative right representable =>
          show round (!leftNegative ^^ rightNegative) _ _ = neg (round _ _ _)
          rw [neg_round, Bool.not_xor]

private theorem neg_div (left right : Binary64) :
    left.neg.div right = (left.div right).neg := by
  cases left with
  | nan => rw [neg, nan_div, neg]
  | infinite leftNegative =>
      cases right with
      | nan => rfl
      | infinite rightNegative => rfl
      | finite rightNegative right representable => simp [neg, div]
  | finite leftNegative left leftRepresentable =>
      cases right with
      | nan => rfl
      | infinite rightNegative => simp [neg, div, signedZero]
      | finite rightNegative right representable =>
          by_cases divisor : right = 0
          · by_cases dividend : left = 0
            · simp [neg, div, divisor, dividend]
            · simp [neg, div, divisor, dividend]
          · simp only [neg_finite, div, if_neg divisor, neg_round, Bool.not_xor]

private theorem neg_rem (left right : Binary64) :
    left.neg.rem right = (left.rem right).neg := by
  cases left with
  | nan => rw [neg, nan_rem, neg]
  | infinite leftNegative => cases right <;> rfl
  | finite leftNegative left leftRepresentable =>
      cases right with
      | nan => rfl
      | infinite rightNegative => rfl
      | finite rightNegative right representable =>
          by_cases positive : 0 < right
          · simp [neg, rem, positive]
          · simp [neg, rem, positive]

/-- A negated number subtracted from zero is the number. -/
theorem unsignZero_zero_sub_neg (number : Binary64) :
    (zero.sub number.neg).unsignZero = number.unsignZero := by
  rw [sub, neg_neg]
  exact unsignZero_signedZero_add false number

end Binary64

namespace Operator

/-- The operators that bind tighter pass the sign of the left operand on. -/
theorem result_neg_left
    {op : Operator}
    (multiplicative : op.precedence = 2)
    (left right : Binary64) :
    op.result left.neg right = (op.result left right).neg := by
  cases op with
  | add => contradiction
  | sub => contradiction
  | mul => exact Binary64.neg_mul left right
  | div => exact Binary64.neg_div left right
  | rem => exact Binary64.neg_rem left right

end Operator

end Keypad
