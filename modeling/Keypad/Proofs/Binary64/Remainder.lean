import Keypad.Proofs.Binary64.Indeterminate
import Keypad.Proofs.Decimal.Nearest

/-!
The remainder of a division that is cut off towards zero.

A remainder of counts is formed without a quotient of numbers, and it is a count of
the format, so nothing is rounded, however far apart the exponents are.  Signs pass
through the division of integers: the sign of the divisor drops out, and that of the
dividend stays, also on a zero.

Owns:
- the whole part of a rational, and of a quotient of integers;
- the remainder of a library that refuses some operands, and the guard that keeps
  these operands from it;
- the rational that a remainder is.

Main statement: `Operator.remainder_truncated`.
-/

namespace Keypad

/-! ## Whole parts -/

/-- What is left of a rational that is cut off towards zero. -/
def wholePart (value : ℚ) : ℤ :=
  if value < 0 then ⌈value⌉ else ⌊value⌋

private theorem wholePart_of_nonneg {value : ℚ} (nonnegative : 0 ≤ value) :
    wholePart value = ⌊value⌋ :=
  if_neg nonnegative.not_gt

private theorem wholePart_neg (value : ℚ) : wholePart (-value) = -wholePart value := by
  unfold wholePart
  rcases lt_trichotomy value 0 with below | rfl | above
  · rw [if_neg (by linarith), if_pos below, Int.floor_neg]
  · simp
  · rw [if_pos (by linarith), if_neg (by linarith), Int.ceil_neg]

private theorem wholePart_natCast_div (dividend divisor : ℕ) :
    wholePart ((dividend : ℚ) / divisor) = (dividend : ℤ).tdiv divisor := by
  have nonnegative : (0 : ℚ) ≤ dividend / divisor :=
    div_nonneg (Nat.cast_nonneg _) (Nat.cast_nonneg _)
  rw [wholePart_of_nonneg nonnegative, Rat.floor_natCast_div_natCast]
  exact (Int.tdiv_eq_ediv_of_nonneg (Int.natCast_nonneg _)).symm

/-- The division of integers that is cut off towards zero is the whole part of the
quotient. -/
theorem wholePart_div (dividend divisor : ℤ) :
    wholePart ((dividend : ℚ) / divisor) = dividend.tdiv divisor := by
  obtain ⟨left, rfl | rfl⟩ := dividend.eq_nat_or_neg
  · obtain ⟨right, rfl | rfl⟩ := divisor.eq_nat_or_neg
    · exact wholePart_natCast_div left right
    · rw [Int.cast_neg, div_neg, wholePart_neg, Int.tdiv_neg]
      exact congrArg Neg.neg (wholePart_natCast_div left right)
  · obtain ⟨right, rfl | rfl⟩ := divisor.eq_nat_or_neg
    · rw [Int.cast_neg, neg_div, wholePart_neg, Int.neg_tdiv]
      exact congrArg Neg.neg (wholePart_natCast_div left right)
    · rw [Int.cast_neg, Int.cast_neg, neg_div_neg_eq, Int.neg_tdiv, Int.tdiv_neg, neg_neg]
      exact wholePart_natCast_div left right

/-- The remainder has the sign of the dividend, whatever that of the divisor. -/
private theorem withSign_tmod (negative otherNegative : Bool) (dividend divisor : ℕ) :
    (withSign negative dividend).tmod (withSign otherNegative divisor) =
      withSign negative (dividend % divisor) := by
  have counts : (dividend : ℤ).tmod divisor = (dividend % divisor : ℕ) := rfl
  cases negative <;> cases otherNegative <;>
    simp only [withSign, if_true, if_false, Bool.false_eq_true, Int.neg_tmod, Int.tmod_neg, counts]

namespace Binary64

/-! ## Operands that are refused -/

/-- The remainder as a library has it.  A zero divisor and an infinite dividend are
refused, unless the other operand is NaN. -/
def rem? : Binary64 → Binary64 → Option Binary64
  | .nan, _ => some .nan
  | _, .nan => some .nan
  | .infinite _, _ => none
  | .finite negative left representable, .infinite _ =>
      some (.finite negative left representable)
  | .finite negative left leftRepresentable, .finite _ right rightRepresentable =>
      if positive : 0 < right then
        some (.finite negative (left % right)
          (rem_representable leftRepresentable rightRepresentable positive))
      else
        none

/-- The remainder, where zero divisors and infinite dividends have NaN for an answer
before the library is asked. -/
def guardedRem? (left right : Binary64) : Option Binary64 :=
  if right.isZero || left.isInfinite then some .nan else left.rem? right

/-- The guard leaves no operand that is refused. -/
theorem guardedRem?_eq (left right : Binary64) :
    left.guardedRem? right = some (left.rem right) := by
  unfold guardedRem?
  split
  · rename_i guarded
    rw [Bool.or_eq_true] at guarded
    rw [(rem_eq_nan_iff left right).mpr (.inr (.inr guarded.symm))]
  · rename_i unguarded
    cases left with
    | nan => simp [rem?]
    | infinite negative => simp [isInfinite] at unguarded
    | finite negative left leftRepresentable =>
        cases right with
        | nan => rfl
        | infinite otherNegative => rfl
        | finite otherNegative right rightRepresentable =>
            have positive : 0 < right := by
              apply Nat.pos_of_ne_zero
              simpa [isZero, isInfinite] using unguarded
            simp [rem?, rem, positive]

/-! ## The rational that a remainder is -/

private theorem rem_infinite
    {left right : Binary64}
    (finite : left.isFinite = true)
    (infinite : right.isInfinite = true) :
    left.rem right = left := by
  cases left with
  | nan => contradiction
  | infinite negative => contradiction
  | finite negative left representable =>
      cases right with
      | nan => contradiction
      | finite _ _ _ => contradiction
      | infinite otherNegative => rfl

section Counts

variable
  (negative otherNegative : Bool)
  {left right : ℕ}
  (representable : Representable left)
  (otherRepresentable : Representable right)
  (positive : 0 < right)
include positive

private theorem rem_finite :
    (finite negative left representable).rem
        (finite otherNegative right otherRepresentable) =
      finite negative (left % right)
        (rem_representable representable otherRepresentable positive) :=
  dif_pos positive

/-- The dividend without the divisor as often as the quotient is whole. -/
private theorem value_rem_finite :
    ((finite negative left representable).rem
        (finite otherNegative right otherRepresentable)).value =
      (finite negative left representable).value -
        (finite otherNegative right otherRepresentable).value *
          wholePart ((finite negative left representable).value /
            (finite otherNegative right otherRepresentable).value) := by
  have unit : (quantaPerUnit : ℚ) ≠ 0 := by exact_mod_cast quantaPerUnit_pos.ne'
  rw [rem_finite negative otherNegative representable otherRepresentable positive]
  simp only [value]
  -- The unit drops out of the quotient, which is one of integers then.
  rw [div_div_div_cancel_right₀ unit, wholePart_div,
    ← withSign_tmod negative otherNegative left right, Int.tmod_def]
  push_cast
  ring

private theorem abs_value_rem_finite_lt :
    |((finite negative left representable).rem
        (finite otherNegative right otherRepresentable)).value| <
      |(finite otherNegative right otherRepresentable).value| := by
  have unit : (0 : ℚ) < quantaPerUnit := by exact_mod_cast quantaPerUnit_pos
  rw [rem_finite negative otherNegative representable otherRepresentable positive,
    abs_value, abs_value]
  apply div_lt_div_of_pos_right _ unit
  exact_mod_cast Nat.mod_lt left positive

end Counts

end Binary64

namespace Operator

open Binary64

/-- Every two numbers have a remainder, and none is refused.  It is NaN for a zero
divisor, for an infinite dividend and for NaN, and for no other operands; it is the
dividend if only the divisor is infinite.  Of two finite numbers it is exactly the
dividend without the divisor times the whole part of their quotient: it is smaller
than the divisor, and its sign is that of the dividend, also if it is a zero. -/
theorem remainder_truncated (left right : Binary64) :
    ∃ rest, Operator.rem.result? left right = some rest ∧
      left.guardedRem? right = some rest ∧
      (rest = .nan ↔
        left = .nan ∨ right = .nan ∨ left.isInfinite = true ∨ right.isZero = true) ∧
      (left.isFinite = true → right.isInfinite = true → rest = left) ∧
      (left.isFinite = true → right.isFinite = true → right.isZero = false →
        rest.isFinite = true ∧
          rest.value = left.value - right.value * wholePart (left.value / right.value) ∧
          |rest.value| < |right.value| ∧
          rest.isNegative = left.isNegative) := by
  refine ⟨left.rem right, by simp [result?, result], guardedRem?_eq left right,
    rem_eq_nan_iff left right, rem_infinite, ?_⟩
  intro finite otherFinite notZero
  obtain ⟨negative, dividend, representable, rfl⟩ := exists_of_isFinite finite
  obtain ⟨otherNegative, divisor, otherRepresentable, rfl⟩ := exists_of_isFinite otherFinite
  have positive : 0 < divisor := by
    apply Nat.pos_of_ne_zero
    simpa [isZero] using notZero
  have remainder :=
    rem_finite negative otherNegative representable otherRepresentable positive
  have value :=
    value_rem_finite negative otherNegative representable otherRepresentable positive
  have smaller :=
    abs_value_rem_finite_lt negative otherNegative representable otherRepresentable positive
  refine ⟨?_, value, smaller, ?_⟩
  · rw [remainder]
    rfl
  · rw [remainder]
    rfl

/-- The largest number with a minus sign by three times the smallest one: some two
thousand binary places lie between their leading bits, and two quanta are left.  By an
infinity, the whole number is left. -/
theorem remainder_truncated_subnormal :
    let largest : Binary64 := .finite true ((2 ^ 53 - 1) * 2 ^ 2045)
      (representable_mul_two_pow (by decide) (by decide))
    let subnormal : Binary64 := .finite false (3 * 2 ^ 0)
      (representable_mul_two_pow (by decide) (by decide))
    ∃ rest, Operator.rem.result? largest subnormal = some rest ∧ rest.rank = some (-2) ∧
      rest.value =
        largest.value - subnormal.value * wholePart (largest.value / subnormal.value) ∧
      |rest.value| < |subnormal.value| ∧ rest.isNegative = true ∧
      Operator.rem.result? largest (.infinite false) = some largest := by
  intro largest subnormal
  have twoQuanta : (Operator.rem.result? largest subnormal >>= rank) = some (-2) := by
    decide +kernel
  obtain ⟨rest, isResult, _, _, _, ofFinite⟩ := remainder_truncated largest subnormal
  obtain ⟨_, value, smaller, sign⟩ := ofFinite rfl rfl rfl
  rw [isResult] at twoQuanta
  obtain ⟨whole, isWhole, _, _, ofInfinite, _⟩ :=
    remainder_truncated largest (.infinite false)
  rw [ofInfinite rfl rfl] at isWhole
  exact ⟨rest, isResult, twoQuanta, value, smaller, sign, isWhole⟩

end Operator

end Keypad
