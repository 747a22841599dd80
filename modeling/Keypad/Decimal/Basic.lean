import Keypad.Binary64.Rounding
import Keypad.Decimal.Digits

/-!
Decimal numbers: a sign, a coefficient and a power of ten.

Owns:
- the type of decimals;
- the binary64 number nearest to a decimal;
- the decimals nearest to a binary64 number, with given places behind the point
  or with a given number of significant digits.

Does not own: the characters of a numeral.
-/

namespace Keypad

/-- The number `coefficient` times ten to the power `exponent`, with a sign. -/
structure Decimal where
  negative : Bool
  coefficient : Nat
  exponent : Int
deriving DecidableEq, Repr

namespace Decimal

def quotient (decimal : Decimal) : Nat × Nat :=
  match decimal.exponent with
  | .ofNat up => (decimal.coefficient * 10 ^ up, 1)
  | .negSucc down => (decimal.coefficient, 10 ^ (down + 1))

theorem quotient_den_pos (decimal : Decimal) : 0 < decimal.quotient.2 := by
  unfold quotient
  split
  · exact Nat.one_pos
  · exact Nat.pow_pos (by decide)

end Decimal

namespace Binary64

/-- The number nearest to a decimal, ties to the even significand. -/
def ofDecimal (decimal : Decimal) : Binary64 :=
  round decimal.negative (decimal.quotient.1 * quantaPerUnit)
    decimal.quotient.2

/-- The count of quanta as a multiple of the given power of ten, rounded; a tie
goes to the even multiple. -/
def multiplesOf (exponent : Int) (quanta : Nat) : Nat :=
  match exponent with
  | .ofNat up => roundHalfEven quanta (10 ^ up * quantaPerUnit)
  | .negSucc down => roundHalfEven (quanta * 10 ^ (down + 1)) quantaPerUnit

/-- The power of ten of the first significant digit of a positive count of
quanta: the largest exponent whose power of ten is not above it. -/
def leadingExponent (quanta : Nat) : Int :=
  if quantaPerUnit ≤ quanta then
    (Decimal.digitCount (quanta / quantaPerUnit) : Int) - 1
  else
    -(Decimal.digitCount ((quantaPerUnit - 1) / quanta) : Int)

def toPlaces (places : Nat) (negative : Bool) (quanta : Nat) : Decimal where
  negative := negative
  coefficient := multiplesOf (-(places : Int)) quanta
  exponent := -(places : Int)

/-- The nearest decimal whose first digit stands `further` places before its
last.  When rounding carries into one more digit, the exponent grows by one. -/
def toSignificant (further : Nat) (negative : Bool) (quanta : Nat) : Decimal :=
  let exponent := leadingExponent quanta - further
  let coefficient := multiplesOf exponent quanta
  if coefficient < 10 ^ (further + 1) then
    ⟨negative, coefficient, exponent⟩
  else
    ⟨negative, 10 ^ further, exponent + 1⟩

/-- A decimal with coefficient zero is a zero of its sign. -/
@[simp] theorem ofDecimal_zero (negative : Bool) (exponent : Int) :
    ofDecimal ⟨negative, 0, exponent⟩ = signedZero negative := by
  cases exponent <;> simp [ofDecimal, Decimal.quotient]

end Binary64

end Keypad
