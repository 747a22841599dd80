import Keypad.Decimal.Numeral

/-!
Reading decimals with an optional sign and an optional exponent.

Owns:
- the reader of such texts, which accepts the whole text or nothing;
- the confinement of exponents that are far outside every binary64 number, so
  that no huge power of ten is ever formed.
-/

namespace Keypad.Decimal

/-- A leading sign, and the rest; a text without one counts as positive. -/
def splitSign : Text → Bool × Text
  | '-' :: rest => (true, rest)
  | '+' :: rest => (false, rest)
  | text => (false, text)

def readInteger? (text : Text) : Option Int :=
  let (negative, body) := splitSign text
  if body ≠ [] ∧ body.all Char.isDigit then
    some (withSign negative (ofDigits body))
  else
    none

/-- The text of a numeral with an optional sign and an optional exponent, which
the letter `e` of either case introduces. -/
def read? (text : Text) : Option Decimal :=
  let (negative, body) := splitSign text
  let (numeral, rest) := Numeral.scan negative body
  if numeral.HasDigit then
    match rest with
    | [] => some numeral.decimal
    | mark :: power =>
        if mark = 'e' ∨ mark = 'E' then
          (readInteger? power).map fun exponent =>
            { numeral.decimal with
              exponent := numeral.decimal.exponent + exponent }
        else
          none
  else
    none

/-- The exponents that can matter for a decimal with a given count of digits:
above the upper end every such decimal is beyond the finite range, and below
the lower end each rounds to zero. -/
def confine (decimal : Decimal) : Decimal where
  negative := decimal.negative
  coefficient := decimal.coefficient
  exponent :=
    max (-(digitCount decimal.coefficient + 400 : Int))
      (min 400 decimal.exponent)

/-- Confinement leaves moderate exponents alone. -/
theorem confine_of_moderate
    (decimal : Decimal)
    (atLeast : -(digitCount decimal.coefficient + 400 : Int) ≤ decimal.exponent)
    (atMost : decimal.exponent ≤ 400) :
    decimal.confine = decimal := by
  cases decimal
  simp only [confine, mk.injEq, true_and] at *
  omega

end Keypad.Decimal
