import Keypad.Binary64.Rounding

/-!
Binary64 numbers as words of 64 bits: a sign bit, eleven exponent bits and
fifty-two fraction bits.

Counting quanta makes both directions short.  The exponent field is one more
than the shift of a normal significand, and a subnormal word is its own count.

Owns: reading a number from a word and writing it into one.  Every NaN word
reads as the one NaN, which is written as the quiet NaN with an empty payload.
-/

namespace Keypad.Binary64

private theorem normal_representable
    {fraction shift : Nat}
    (fractionBounded : fraction < 2 ^ 52)
    (shiftBounded : shift < 2046) :
    Representable ((2 ^ 52 + fraction) * 2 ^ shift) :=
  representable_mul_two_pow (by unfold significandBound; omega) shiftBounded

private theorem subnormal_representable
    {fraction : Nat}
    (fractionBounded : fraction < 2 ^ 52) :
    Representable fraction := by
  have bounded : fraction < significandBound := by unfold significandBound; omega
  simpa using representable_mul_two_pow bounded (by decide : 0 < 2046)

def ofBits (word : BitVec 64) : Binary64 :=
  let negative := 2 ^ 63 ≤ word.toNat
  let exponent := word.toNat / 2 ^ 52 % 2 ^ 11
  let fraction := word.toNat % 2 ^ 52
  have fractionBounded : fraction < 2 ^ 52 := Nat.mod_lt _ (by decide)
  if exponent = 0 then
    .finite negative fraction (subnormal_representable fractionBounded)
  else if normal : exponent - 1 < 2046 then
    .finite negative ((2 ^ 52 + fraction) * 2 ^ (exponent - 1))
      (normal_representable fractionBounded normal)
  else if fraction = 0 then
    .infinite negative
  else
    .nan

def signBit (negative : Bool) : Nat :=
  if negative then 2 ^ 63 else 0

/-- The word of a number.  With the shift of the count's leading 53 bits in the
exponent field, the hidden bit of a normal significand carries one more into
it, and a subnormal count is left alone. -/
def toBits : Binary64 → BitVec 64
  | .finite negative quanta _ =>
      let shift := spacingShift quanta
      BitVec.ofNat 64
        (signBit negative + shift * 2 ^ 52 + quanta / 2 ^ shift)
  | .infinite negative =>
      BitVec.ofNat 64 (signBit negative + 2047 * 2 ^ 52)
  | .nan => BitVec.ofNat 64 (2047 * 2 ^ 52 + 2 ^ 51)

end Keypad.Binary64
