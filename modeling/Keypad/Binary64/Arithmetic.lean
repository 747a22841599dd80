import Keypad.Binary64.Rounding

/-!
Arithmetic on binary64 numbers.

Sums, products and quotients are formed exactly on counts of quanta and rounded
once.  The remainder needs no rounding: it is always a number of the format.

Owns: addition, subtraction, multiplication, division and remainder, total on
all numbers, with infinities and NaN.

Main statements: `rem_representable` (the remainder of two representable counts
is representable) and the NaN laws (an operation on NaN gives NaN).
-/

namespace Keypad.Binary64

/-- The sum.  An exact zero is negative only when both summands are. -/
def add : Binary64 → Binary64 → Binary64
  | .finite leftNegative left _, .finite rightNegative right _ =>
      let sum := withSign leftNegative left + withSign rightNegative right
      if sum = 0 then
        signedZero (leftNegative && rightNegative)
      else
        round (sum < 0) sum.natAbs 1
  | .infinite leftNegative, .infinite rightNegative =>
      if leftNegative = rightNegative then .infinite leftNegative else .nan
  | .infinite negative, .finite _ _ _ => .infinite negative
  | .finite _ _ _, .infinite negative => .infinite negative
  | .nan, _ => .nan
  | _, .nan => .nan

/-- The difference is the sum with the negated subtrahend. -/
def sub (left right : Binary64) : Binary64 :=
  left.add right.neg

/-- The product; an infinity times zero is NaN. -/
def mul : Binary64 → Binary64 → Binary64
  | .finite leftNegative left _, .finite rightNegative right _ =>
      round (leftNegative ^^ rightNegative) (left * right) quantaPerUnit
  | .infinite leftNegative, .infinite rightNegative =>
      .infinite (leftNegative ^^ rightNegative)
  | .infinite leftNegative, .finite rightNegative right _ =>
      if right = 0 then .nan else .infinite (leftNegative ^^ rightNegative)
  | .finite leftNegative left _, .infinite rightNegative =>
      if left = 0 then .nan else .infinite (leftNegative ^^ rightNegative)
  | .nan, _ => .nan
  | _, .nan => .nan

/-- The quotient; dividing by zero gives an infinity, and zero by zero and
infinity by infinity give NaN. -/
def div : Binary64 → Binary64 → Binary64
  | .finite leftNegative left _, .finite rightNegative right _ =>
      if right = 0 then
        if left = 0 then .nan else .infinite (leftNegative ^^ rightNegative)
      else
        round (leftNegative ^^ rightNegative) (left * quantaPerUnit) right
  | .infinite _, .infinite _ => .nan
  | .infinite leftNegative, .finite rightNegative _ _ =>
      .infinite (leftNegative ^^ rightNegative)
  | .finite leftNegative _ _, .infinite rightNegative =>
      signedZero (leftNegative ^^ rightNegative)
  | .nan, _ => .nan
  | _, .nan => .nan

/-- Division of representable counts leaves a representable rest: the rest is a
multiple of the finer of the two grids and no larger than either allows. -/
theorem rem_representable
    {left right : Nat}
    (leftRepresentable : Representable left)
    (rightRepresentable : Representable right)
    (rightPositive : 0 < right) :
    Representable (left % right) where
  inRange :=
    Nat.lt_of_le_of_lt (Nat.mod_le left right) leftRepresentable.inRange
  significant := by
    obtain ⟨leftSignificand, leftShift, leftBounded, rfl⟩ :=
      leftRepresentable.significant
    obtain ⟨rightSignificand, rightShift, rightBounded, rfl⟩ :=
      rightRepresentable.significant
    by_cases finer : rightShift ≤ leftShift
    · obtain ⟨gap, rfl⟩ := Nat.exists_eq_add_of_le' finer
      have rightSignificandPositive : 0 < rightSignificand :=
        Nat.pos_of_mul_pos_right rightPositive
      refine ⟨leftSignificand * 2 ^ gap % rightSignificand, rightShift,
        Nat.lt_trans (Nat.mod_lt _ rightSignificandPositive) rightBounded, ?_⟩
      rw [Nat.pow_add, ← Nat.mul_assoc, Nat.mul_mod_mul_right]
    · obtain ⟨gap, rfl⟩ := Nat.exists_eq_add_of_le' (Nat.le_of_not_le finer)
      refine ⟨leftSignificand % (rightSignificand * 2 ^ gap), leftShift,
        Nat.lt_of_le_of_lt (Nat.mod_le _ _) leftBounded, ?_⟩
      rw [Nat.pow_add, ← Nat.mul_assoc, Nat.mul_mod_mul_right]

/-- The remainder of the truncated quotient, exact, with the sign of the
dividend.  It is NaN for a zero divisor or an infinite dividend. -/
def rem : Binary64 → Binary64 → Binary64
  | .finite negative left leftRepresentable,
    .finite _ right rightRepresentable =>
      if positive : 0 < right then
        .finite negative (left % right)
          (rem_representable leftRepresentable rightRepresentable positive)
      else
        .nan
  | .finite negative left representable, .infinite _ =>
      .finite negative left representable
  | .infinite _, _ => .nan
  | .nan, _ => .nan
  | _, .nan => .nan

/-! ## NaN is never lost -/

@[simp] theorem nan_add (right : Binary64) : add .nan right = .nan := by
  cases right <;> rfl

@[simp] theorem add_nan (left : Binary64) : add left .nan = .nan := by
  cases left <;> rfl

@[simp] theorem nan_sub (right : Binary64) : sub .nan right = .nan := by
  simp [sub]

@[simp] theorem sub_nan (left : Binary64) : sub left .nan = .nan := by
  simp [sub, neg]

@[simp] theorem nan_mul (right : Binary64) : mul .nan right = .nan := by
  cases right <;> rfl

@[simp] theorem mul_nan (left : Binary64) : mul left .nan = .nan := by
  cases left <;> rfl

@[simp] theorem nan_div (right : Binary64) : div .nan right = .nan := by
  cases right <;> rfl

@[simp] theorem div_nan (left : Binary64) : div left .nan = .nan := by
  cases left <;> rfl

@[simp] theorem nan_rem (right : Binary64) : rem .nan right = .nan := by
  cases right <;> rfl

@[simp] theorem rem_nan (left : Binary64) : rem left .nan = .nan := by
  cases left <;> rfl

end Keypad.Binary64
