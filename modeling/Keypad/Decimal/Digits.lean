import Keypad.Text.Basic

/-!
Strings of decimal digits.

Owns:
- writing a natural number in decimal, plain and padded with zeros;
- reading a string of digits as a natural number;
- placing a decimal point inside a number's digits, and dropping the zeros
  that a fraction does not need.

Main statements: `ofDigits_digits`, `ofDigits_padded` (what is written reads
back).
-/

-- Powers are those of the core library, whatever other library is in scope.
attribute [instance (high), default_instance (high + 1)] instPowNat

namespace Keypad.Decimal

/-- The decimal digits of a number, without superfluous zeros. -/
def digits (number : Nat) : Text :=
  Nat.toDigits 10 number

def ofDigits (text : Text) : Nat :=
  Nat.ofDigitChars 10 text 0

/-- The digits of a number, filled up on the left with zeros to a width. -/
def padded (width number : Nat) : Text :=
  (digits number).leftpad width '0'

def digitCount (number : Nat) : Nat :=
  (digits number).length

/-- A number with that many of its digits behind a decimal point; no point is
written when there are none. -/
def pointed (places number : Nat) : Text :=
  digits (number / 10 ^ places) ++
    if places = 0 then [] else '.' :: padded places (number % 10 ^ places)

/-- An exponent with its sign, at least `width` digits wide. -/
def exponentText (width : Nat) (exponent : Int) : Text :=
  (if exponent < 0 then '-' else '+') :: padded width exponent.natAbs

/-- A text with a point loses its trailing zeros, and then its trailing point;
a text without a point is kept, zeros and all. -/
def trimFraction (text : Text) : Text :=
  if '.' ∈ text then
    Text.trimEnd (· = '.') (Text.trimEnd (· = '0') text)
  else
    text

/-! ## What is written reads back -/

@[simp] theorem ofDigits_digits (number : Nat) :
    ofDigits (digits number) = number :=
  Nat.ofDigitChars_toDigits (by decide) (by decide)

theorem isDigit_of_mem_digits
    {number : Nat}
    {character : Char}
    (member : character ∈ digits number) :
    character.isDigit = true :=
  Nat.isDigit_of_mem_toDigits (by decide) (by decide) member

theorem digits_ne_nil (number : Nat) : digits number ≠ [] :=
  Nat.toDigits_ne_nil

/-- A positive number is written without a zero in front. -/
theorem head?_digits
    {number : Nat}
    (positive : 0 < number) :
    (digits number).head? ≠ some '0' := by
  induction number using Nat.strongRecOn with
  | ind number inductionHypothesis =>
      by_cases single : number < 10
      · rw [digits, Nat.toDigits_of_lt_base single]
        intro head
        have zero := Nat.digitChar_eq_zero.mp (Option.some.inj head)
        omega
      · have fewer := inductionHypothesis (number / 10) (by omega) (by omega)
        rw [digits, Nat.toDigits_of_base_le (by decide) (Nat.le_of_not_lt single),
          ← digits, List.head?_append]
        cases front : (digits (number / 10)).head? with
        | none => exact absurd (List.head?_eq_none_iff.mp front) (digits_ne_nil _)
        | some first => rwa [← front, Option.or_of_isSome (by rw [front]; rfl)]

theorem lt_pow_digitCount (number : Nat) : number < 10 ^ digitCount number :=
  (Nat.length_toDigits_le_iff (by decide)
    (List.length_pos_iff.mpr (digits_ne_nil number))).mp (Nat.le_refl _)

/-- A positive number reaches the power of ten of its first digit. -/
theorem pow_digitCount_le
    {number : Nat}
    (positive : 0 < number) :
    10 ^ (digitCount number - 1) ≤ number := by
  have digit : 0 < digitCount number :=
    List.length_pos_iff.mpr (digits_ne_nil number)
  by_cases single : digitCount number = 1
  · rw [single]
    exact positive
  · apply Nat.le_of_not_lt
    intro below
    have fewer := (Nat.length_toDigits_le_iff (by decide) (by omega)).mpr below
    rw [← digits, ← digitCount] at fewer
    omega

/-- Zeros on the left do not change a number. -/
@[simp] theorem ofDigits_padded (width number : Nat) :
    ofDigits (padded width number) = number := by
  have written := ofDigits_digits number
  unfold ofDigits at *
  simp only [padded, List.leftpad, Nat.ofDigitChars_append,
    Nat.ofDigitChars_replicate_zero, Nat.mul_zero]
  exact written

theorem ofDigits_dropWhile_zeros (digits : Text) :
    ofDigits (digits.dropWhile (· = '0')) = ofDigits digits := by
  induction digits with
  | nil => rfl
  | cons digit later inductionHypothesis =>
      by_cases zero : digit = '0'
      · rw [List.dropWhile_cons_of_pos (by simpa using zero), inductionHypothesis, zero]
        rfl
      · rw [List.dropWhile_cons_of_neg (by simpa using zero)]

theorem isDigit_of_mem_padded
    {width number : Nat}
    {character : Char}
    (member : character ∈ padded width number) :
    character.isDigit = true := by
  simp only [padded, List.leftpad, List.mem_append, List.mem_replicate] at member
  rcases member with ⟨_, rfl⟩ | inDigits
  · rfl
  · exact isDigit_of_mem_digits inDigits

/-- A number below the width's power of ten fills its width exactly. -/
theorem length_padded
    {width number : Nat}
    (positive : 0 < width)
    (fits : number < 10 ^ width) :
    (padded width number).length = width := by
  have short : (digits number).length ≤ width :=
    (Nat.length_toDigits_le_iff (by decide) positive).mpr fits
  simp only [padded, List.leftpad, List.length_append, List.length_replicate]
  omega

end Keypad.Decimal
