import Keypad.Decimal.Shortest

/-!
How results are written.

A result has at most a given number of places behind its point and no needless
zeros.  Very large and very small magnitudes are written with seven significant
digits at most and an exponent.

Owns:
- the bounds between the two notations;
- the failures of a precision that cannot be used;
- the text of a number.

Only the positional notation looks at the precision, so only there can it fail.  A
precision is refused by itself, and not for the number of digits that it leads to
together with those in front of the point.  Just below the limit there can be more
digits than the limit, and the text is the rounded number all the same.
-/

namespace Keypad

inductive PrecisionFault where
  | negative
  | tooLarge
  | tooManyDigits
deriving DecidableEq, Repr

def PrecisionFault.message : PrecisionFault → String
  | .negative => "Format specifier missing precision"
  | .tooLarge => "precision too big"
  | .tooManyDigits => "Too many decimal digits in format string"

namespace NumberFormat

def scientificAbove : Binary64 :=
  Binary64.ofDecimal ⟨false, 1, 12⟩

/-- Magnitudes below this one, other than zero, have an exponent. -/
def scientificBelow : Binary64 :=
  Binary64.ofDecimal ⟨false, 1, -6⟩

def mantissaPlaces : Nat :=
  6

/-- The largest precision that can be written. -/
def precisionLimit : Int :=
  2 ^ 31 - 1

/-- The largest precision that can be told apart from a larger one. -/
def digitLimit : Int :=
  2 ^ 63 - 1

def places (precision : Int) : Except PrecisionFault Nat :=
  if precision < 0 then .error .negative
  else if digitLimit < precision then .error .tooManyDigits
  else if precisionLimit < precision then .error .tooLarge
  else .ok precision.toNat

def isScientific (number : Binary64) : Bool :=
  scientificAbove.less number.magnitude ||
    (number.magnitude.less scientificBelow && !number.isZero)

/-- A magnitude with a minus sign; zero has none. -/
def signedText (negative : Bool) (magnitude : Text) : Text :=
  if negative ∧ magnitude ≠ ['0'] then '-' :: magnitude else magnitude

def positional (places : Nat) (negative : Bool) (quanta : Nat) : Text :=
  let decimal := Binary64.toPlaces places negative quanta
  signedText negative
    (Decimal.trimFraction (Decimal.pointed places decimal.coefficient))

def scientific (negative : Bool) (quanta : Nat) : Text :=
  let decimal := Binary64.toSignificant mantissaPlaces negative quanta
  let mantissa :=
    Decimal.trimFraction (Decimal.pointed mantissaPlaces decimal.coefficient)
  signedText negative
    (mantissa ++
      'e' :: Decimal.exponentText 1 (decimal.exponent + mantissaPlaces))

def format (precision : Int) (number : Binary64) : Except PrecisionFault Text :=
  match number with
  | .finite negative quanta _ =>
      if isScientific number then
        .ok (scientific negative quanta)
      else do
        let places ← places precision
        return positional places negative quanta
  | _ => .ok number.literal

/-! ## Laws -/

theorem places_of_usable
    {precision : Int}
    (nonnegative : 0 ≤ precision)
    (usable : precision ≤ precisionLimit) :
    places precision = .ok precision.toNat := by
  have belowDigitLimit : ¬ digitLimit < precision := by
    simp only [precisionLimit, digitLimit] at *
    omega
  rw [places, if_neg (Int.not_lt.mpr nonnegative), if_neg belowDigitLimit,
    if_neg (Int.not_lt.mpr usable)]

theorem usable_of_places
    {precision : Int}
    {count : Nat}
    (accepted : places precision = .ok count) :
    0 ≤ precision ∧ precision ≤ precisionLimit := by
  unfold places at accepted
  split at accepted
  · contradiction
  · split at accepted
    · contradiction
    · split at accepted
      · contradiction
      · omega

/-- Numbers that are written with an exponent are written at any precision. -/
theorem format_of_isScientific
    (precision : Int)
    {number : Binary64}
    (scientificNotation : isScientific number = true) :
    ∃ text, format precision number = .ok text := by
  cases number <;> simp_all [format]

end NumberFormat

end Keypad
