/-!
Binary64 numbers as exact integers.

Every finite number of the format is a whole multiple of the smallest positive
one, its quantum, so a finite number is a sign and a count of quanta.  Nothing
is lost that way, and sums, products and remainders become integer arithmetic
that is rounded once.

Owns:
- the condition on a count of quanta to be a number of the format;
- the type of numbers, with infinities and a single NaN;
- the sign, the order and the classification of numbers.

Does not own: rounding, arithmetic, words of 64 bits.
-/

-- Powers are those of the core library, whatever other library is in scope.
attribute [instance (high), default_instance (high + 1)] instPowNat

namespace Keypad

def withSign (negative : Bool) (size : Nat) : Int :=
  if negative then -(size : Int) else size

namespace Binary64

/-- A quantum is 2 to the power -1074. -/
def unitShift : Nat := 1074

def quantaPerUnit : Nat := 2 ^ unitShift

/-- The finite range ends below 2 to the power 2098 quanta, which is 2 to the
power 1024 units. -/
def rangeShift : Nat := 2098

/-- The first count of quanta beyond the finite range, one step above the
largest finite number. -/
def overflowBound : Nat := 2 ^ rangeShift

def significandBound : Nat := 2 ^ 53

/-- A count of quanta is representable when it is in range and a significand of
53 bits, shifted left, produces it. -/
structure Representable (quanta : Nat) : Prop where
  inRange : quanta < overflowBound
  significant : ∃ significand shift,
    significand < significandBound ∧ quanta = significand * 2 ^ shift

end Binary64

/-- A binary64 number.  Zero keeps its sign; all NaNs are one value. -/
inductive Binary64 where
  | finite (negative : Bool) (quanta : Nat)
      (representable : Binary64.Representable quanta)
  | infinite (negative : Bool)
  | nan
deriving DecidableEq

namespace Binary64

theorem overflowBound_pos : 0 < overflowBound :=
  Nat.two_pow_pos rangeShift

theorem quantaPerUnit_pos : 0 < quantaPerUnit :=
  Nat.two_pow_pos unitShift

theorem representable_zero : Representable 0 where
  inRange := overflowBound_pos
  significant := ⟨0, 0, Nat.two_pow_pos 53, by simp⟩

/-- Significands may be shifted by up to 2045 bits. -/
theorem representable_mul_two_pow
    {significand shift : Nat}
    (bounded : significand < significandBound)
    (shiftBounded : shift < 2046) :
    Representable (significand * 2 ^ shift) where
  inRange := by
    calc
      significand * 2 ^ shift < 2 ^ 53 * 2 ^ shift :=
        Nat.mul_lt_mul_of_pos_right bounded (Nat.two_pow_pos _)
      _ = 2 ^ (53 + shift) := (Nat.pow_add 2 53 shift).symm
      _ ≤ overflowBound :=
        Nat.pow_le_pow_right Nat.two_pos (by unfold rangeShift; omega)
  significant := ⟨significand, shift, bounded, rfl⟩

def signedZero (negative : Bool) : Binary64 :=
  .finite negative 0 representable_zero

def zero : Binary64 :=
  signedZero false

instance : Inhabited Binary64 :=
  ⟨zero⟩

/-- Zero of either sign. -/
def isZero : Binary64 → Bool
  | .finite _ quanta _ => quanta = 0
  | _ => false

def isFinite : Binary64 → Bool
  | .finite _ _ _ => true
  | _ => false

/-- Carries a minus sign; NaN has none. -/
def isNegative : Binary64 → Bool
  | .finite negative _ _ => negative
  | .infinite negative => negative
  | .nan => false

def neg : Binary64 → Binary64
  | .finite negative quanta representable =>
      .finite (!negative) quanta representable
  | .infinite negative => .infinite (!negative)
  | .nan => .nan

def magnitude : Binary64 → Binary64
  | .finite _ quanta representable => .finite false quanta representable
  | .infinite _ => .infinite false
  | .nan => .nan

/-- The place of a number in the order of the line: its signed count of quanta,
with the infinities at the overflow bound.  NaN has no place. -/
def rank : Binary64 → Option Int
  | .finite negative quanta _ => some (withSign negative quanta)
  | .infinite negative => some (withSign negative overflowBound)
  | .nan => none

/-- The strict order; NaN is not comparable with anything, and the two zeros
are equal. -/
def less (left right : Binary64) : Bool :=
  match left.rank, right.rank with
  | some leftRank, some rightRank => leftRank < rightRank
  | _, _ => false

/-- The positive zero in place of the negative one; every other number is kept. -/
def unsignZero (number : Binary64) : Binary64 :=
  if number.isZero then zero else number

/-! ## Laws -/

@[simp] theorem neg_neg (number : Binary64) : number.neg.neg = number := by
  cases number <;> simp [neg]

@[simp] theorem isFinite_neg (number : Binary64) :
    number.neg.isFinite = number.isFinite := by
  cases number <;> rfl

@[simp] theorem isZero_neg (number : Binary64) :
    number.neg.isZero = number.isZero := by
  cases number <;> rfl

@[simp] theorem isZero_signedZero (negative : Bool) :
    (signedZero negative).isZero = true := by
  simp [signedZero, isZero]

theorem exists_of_isFinite
    {number : Binary64}
    (finite : number.isFinite = true) :
    ∃ negative quanta representable, number = .finite negative quanta representable := by
  cases number with
  | finite negative quanta representable => exact ⟨_, _, representable, rfl⟩
  | infinite negative => contradiction
  | nan => contradiction

theorem isFinite_of_isZero {number : Binary64} (isZero : number.isZero = true) :
    number.isFinite = true := by
  cases number <;> simp_all [Binary64.isZero, isFinite]

/-- Dropping the sign of zero keeps a number finite or not. -/
@[simp] theorem isFinite_unsignZero (number : Binary64) :
    number.unsignZero.isFinite = number.isFinite := by
  unfold unsignZero
  split
  · rename_i isZero
    rw [isFinite_of_isZero isZero]
    rfl
  · rfl

/-- The negative zero never comes out of `unsignZero`. -/
theorem unsignZero_ne_negativeZero (number : Binary64) :
    number.unsignZero ≠ signedZero true := by
  unfold unsignZero
  split
  · simp [zero, signedZero]
  · rename_i notZero
    intro equal
    simp [equal] at notZero

/-- Nothing is below NaN. -/
@[simp] theorem less_nan (left : Binary64) : less left .nan = false := by
  cases left <;> rfl

/-- NaN is below nothing. -/
@[simp] theorem nan_less (right : Binary64) : less .nan right = false := by
  cases right <;> rfl

end Binary64

end Keypad
