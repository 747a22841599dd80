import Keypad.Decimal.Basic

/-!
The shortest decimal that reads back as a given binary64 number.

For one digit, two digits and so on, the two neighbours of the number on the
decimal grid of that many significant digits are tried; if any point of the grid
reads back, one of the two does.  Of two that do, the nearer is taken.

Owns:
- the search for the shortest decimal;
- the layout of a decimal, positional or with an exponent;
- the literal of a number.

The search needs no more than 17 digits for any number of the format.
-/

namespace Keypad

namespace Binary64

def readsBack (quanta coefficient : Nat) (exponent : Int) : Bool :=
  let quotient := Decimal.quotient ⟨false, coefficient, exponent⟩
  nearest (quotient.1 * quantaPerUnit) quotient.2 = quanta

/-- The coefficient with a given grid exponent that reads back, if there is one:
of the neighbours below and above the nearer one. -/
def neighbour? (quanta : Nat) (exponent : Int) : Option Nat :=
  let nearer := multiplesOf exponent quanta
  if readsBack quanta nearer exponent then some nearer
  else if readsBack quanta (nearer - 1) exponent then some (nearer - 1)
  else if readsBack quanta (nearer + 1) exponent then some (nearer + 1)
  else none

/-- The decimal with the fewest significant digits that reads back.  The exact
value of the count stands where the search ends without one. -/
def shortest (negative : Bool) (quanta : Nat) : Decimal :=
  let leading := leadingExponent quanta
  let attempt (further : Nat) : Option Decimal :=
    (neighbour? quanta (leading - further)).map fun coefficient =>
      ⟨negative, coefficient, leading - further⟩
  ((List.range 17).findSome? attempt).getD
    ⟨negative, quanta * 5 ^ unitShift, -(unitShift : Int)⟩

end Binary64

namespace Decimal

/-- How a decimal is laid out: the powers of ten of a first digit from which and
below which no exponent is written, and the least width of a written one. -/
structure Layout where
  positionalFrom : Int
  positionalBelow : Int
  exponentWidth : Nat

/-- A decimal by its significant digits.  Positional notation always shows a
digit on both sides of the point; a mantissa has a point only when a digit
follows it. -/
def layOut (layout : Layout) (decimal : Decimal) : Text :=
  let written := digits decimal.coefficient
  let significant := Text.trimEnd (· = '0') written
  let leading := decimal.exponent + written.length - 1
  let magnitude :=
    if layout.positionalFrom ≤ leading ∧ leading < layout.positionalBelow then
      if leading < 0 then
        '0' :: '.' :: (List.replicate (-leading - 1).toNat '0' ++ significant)
      else
        let whole := leading.toNat + 1
        if significant.length ≤ whole then
          significant ++ List.replicate (whole - significant.length) '0' ++
            ['.', '0']
        else
          significant.take whole ++ '.' :: significant.drop whole
    else
      significant.take 1 ++
        (if significant.length ≤ 1 then [] else '.' :: significant.drop 1) ++
        'e' :: exponentText layout.exponentWidth leading
  if decimal.negative then '-' :: magnitude else magnitude

end Decimal

namespace Binary64

/-- Literals are positional from a ten-thousandth to below ten to the power 16,
and their exponents have two digits or more. -/
def literalLayout : Decimal.Layout where
  positionalFrom := -4
  positionalBelow := 16
  exponentWidth := 2

def literal : Binary64 → Text
  | .finite negative quanta _ =>
      if quanta = 0 then
        if negative then ['-', '0', '.', '0'] else ['0', '.', '0']
      else
        Decimal.layOut literalLayout (shortest negative quanta)
  | .infinite negative =>
      if negative then ['-', 'i', 'n', 'f'] else ['i', 'n', 'f']
  | .nan => ['n', 'a', 'n']

end Binary64

end Keypad
