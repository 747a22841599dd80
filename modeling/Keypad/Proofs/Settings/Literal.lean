import Keypad.Proofs.Decimal.Reading
import Keypad.Proofs.Decimal.Value
import Keypad.Proofs.Entry.Result
import Keypad.Settings

/-!
Reading the text of a numeral.

The reader of settings takes more than numerals: blanks around them, the digits of
other scripts, underscores, exponents and names.  None of that stands in the text of
a numeral, so that it is read as it is written.  Its places may be more than the
reader looks at; a number with so many of them in front of its first digit is too
small to be told from zero.

Owns:
- decimals that round to zero, and why exponents can be confined;
- the number that is read from the text of a numeral.

Main statement: `readNumber_text`.
-/

namespace Keypad

/-! ## Confined exponents -/

/-- Less than half a quantum is rounded to zero. -/
private theorem Binary64.ofDecimal_of_tiny
    {decimal : Decimal}
    (tiny : decimal.magnitude * quantaPerUnit < 1 / 2) :
    ofDecimal decimal = signedZero decimal.negative := by
  have closest := nearest_closest (decimal.quotient.1 * quantaPerUnit)
    decimal.quotient_den_pos representable_zero
  have nonnegative : 0 ≤ decimal.magnitude * quantaPerUnit :=
    mul_nonneg decimal.magnitude_nonneg (Nat.cast_nonneg _)
  rw [quanta_of_quotient, Nat.cast_zero, sub_zero, abs_of_nonneg nonnegative] at closest
  have distance := (neg_le_abs _).trans closest
  have belowOne : (nearest (decimal.quotient.1 * quantaPerUnit) decimal.quotient.2 : ℚ) <
      (1 : ℕ) := by
    push_cast
    linarith
  have untouched := Nat.lt_one_iff.mp (Nat.cast_lt.mp belowOne)
  simp [ofDecimal, round, untouched, overflowBound_pos, signedZero]

namespace Decimal

private theorem tiny_of_exponent
    {decimal : Decimal}
    {spare : ℕ}
    (unitSmall : 2 * Binary64.quantaPerUnit < 10 ^ spare)
    (low : decimal.exponent ≤ -(digitCount decimal.coefficient + spare : ℤ)) :
    decimal.magnitude * Binary64.quantaPerUnit < 1 / 2 := by
  have bounded := lt_pow_digitCount decimal.coefficient
  generalize Binary64.quantaPerUnit = unit at *
  generalize digitCount decimal.coefficient = count at *
  have power : (10 : ℚ) ^ decimal.exponent ≤ (10 ^ (count + spare))⁻¹ := by
    rw [← zpow_natCast, ← zpow_neg]
    exact zpow_le_zpow_right₀ (by norm_num) (by exact_mod_cast low)
  have unitRational : (unit : ℚ) < 10 ^ spare / 2 := by
    rw [lt_div_iff₀ two_pos, mul_comm]
    exact_mod_cast unitSmall
  have front : decimal.magnitude ≤ (10 ^ spare)⁻¹ := by
    calc
      decimal.magnitude ≤ 10 ^ count * (10 ^ (count + spare))⁻¹ :=
        mul_le_mul (by exact_mod_cast bounded.le) power (zpow_nonneg (by norm_num) _)
          (by positivity)
      _ = (10 ^ spare)⁻¹ := by
        rw [pow_add, mul_inv]
        exact mul_inv_cancel_left₀ (by positivity) _
  calc
    decimal.magnitude * unit ≤ (10 ^ spare)⁻¹ * unit :=
      mul_le_mul_of_nonneg_right front (Nat.cast_nonneg _)
    _ < (10 ^ spare)⁻¹ * (10 ^ spare / 2) :=
      mul_lt_mul_of_pos_left unitRational (by positivity)
    _ = 1 / 2 := by
      rw [mul_div_assoc', inv_mul_cancel₀ (by positivity)]

/-- Exponents below the lower end do not matter. -/
theorem ofDecimal_confine
    {decimal : Decimal}
    (atMost : decimal.exponent ≤ 400) :
    Binary64.ofDecimal decimal.confine = Binary64.ofDecimal decimal := by
  have unitSmall : 2 * Binary64.quantaPerUnit < 10 ^ 400 := by decide +kernel
  by_cases low : decimal.exponent ≤ -(digitCount decimal.coefficient + 400 : ℤ)
  · have confined : decimal.confine.exponent =
        -(digitCount decimal.coefficient + 400 : ℤ) := by
      simp only [confine]
      omega
    rw [Binary64.ofDecimal_of_tiny (tiny_of_exponent unitSmall low),
      Binary64.ofDecimal_of_tiny (tiny_of_exponent unitSmall confined.le)]
    rfl
  · rw [confine_of_moderate decimal (Int.le_of_lt (Int.lt_of_not_ge low)) atMost]

end Decimal

/-! ## The text of a numeral -/

namespace Settings

/-- A text without underscores has none to join. -/
private theorem joinDigits?_of_none
    {text : Text}
    (none : '_' ∉ text)
    (afterDigit : Bool) :
    joinDigits? afterDigit text = some text := by
  induction text generalizing afterDigit with
  | nil => rfl
  | cons first rest inductionHypothesis =>
      have other : first ≠ '_' := fun same => none (same ▸ List.mem_cons_self)
      have later : '_' ∉ rest := fun member => none (List.mem_cons_of_mem first member)
      rw [joinDigits?, inductionHypothesis later]
      · rfl
      · exact other

end Settings

/-- What stands in a numeral. -/
theorem Numeral.digit_point_or_sign_of_mem_text
    {written : Numeral}
    (wellFormed : written.WellFormed)
    {character : Char}
    (member : character ∈ written.text) :
    character.isDigit = true ∨ character = '.' ∨ character = '-' := by
  rcases mem_text wellFormed member with number | sign
  · simp only [Entry.isNumberKey, Bool.or_eq_true, decide_eq_true_eq] at number
    exact number.imp_right .inl
  · exact .inr (.inr sign)

namespace Settings

def numberMarks : List Char :=
  ['.', '-', '+', 'e']

/-- Nothing is replaced, joined or trimmed in a text of ASCII digits and such marks. -/
theorem numberText?_of_plain
    {text : Text}
    (plain : ∀ character ∈ text, character.isDigit = true ∨ character ∈ numberMarks) :
    numberText? text = some text := by
  have trimmed : Text.trimBy Text.isNumberBlank text = text := by
    have noBlank : numberMarks.all (fun mark => !Text.isNumberBlank mark) = true := by decide
    apply Text.trimBy_of_none
    intro character member
    rcases plain character member with digit | mark
    · exact Text.isNumberBlank_of_isDigit digit
    · simpa using List.all_eq_true.mp noBlank character mark
  have ascii : asciiDigits text = text := by
    have noDigit : numberMarks.all (fun mark => (Text.asciiDigit? mark).isNone) = true := by
      decide
    apply (List.map_congr_left ?_).trans (List.map_id text)
    intro character member
    rcases plain character member with digit | mark
    · rw [Text.asciiDigit?_of_isDigit digit]
      rfl
    · have isMark := List.all_eq_true.mp noDigit character mark
      rw [Option.isNone_iff_eq_none.mp isMark]
      rfl
  rw [numberText?, trimmed, ascii]
  apply joinDigits?_of_none
  intro member
  rcases plain '_' member with digit | mark
  · contradiction
  · exact absurd mark (by decide)

/-- A decimal is rounded when it is read, unless its exponent is far too large. -/
theorem readNumber_of_read?
    {text : Text}
    {decimal : Decimal}
    (plain : numberText? text = some text)
    (isRead : Decimal.read? text = some decimal)
    (atMost : decimal.exponent ≤ 400) :
    readNumber text = .ok (Binary64.ofDecimal decimal) := by
  simp [readNumber, plain, isRead, Decimal.ofDecimal_confine atMost]

variable {written : Numeral} (wellFormed : written.WellFormed)
include wellFormed

theorem readNumber_text : readNumber written.text = .ok written.number := by
  apply readNumber_of_read? _ (Decimal.read?_text wellFormed)
  · simp only [Numeral.decimal]
    omega
  · apply numberText?_of_plain
    intro character member
    refine (Numeral.digit_point_or_sign_of_mem_text wellFormed member).imp_right ?_
    rintro (rfl | rfl) <;> decide

/-- An exponent behind a numeral is read with it. -/
theorem readNumber_text_exponent
    (width : ℕ)
    {exponent : ℤ}
    (atMost : written.decimal.exponent + exponent ≤ 400) :
    readNumber (written.text ++ 'e' :: Decimal.exponentText width exponent) =
      .ok (Binary64.ofDecimal
        { written.decimal with exponent := written.decimal.exponent + exponent }) := by
  apply readNumber_of_read? _ (Decimal.read?_text_exponent wellFormed width exponent) atMost
  apply numberText?_of_plain
  intro character member
  rw [List.mem_append, List.mem_cons] at member
  rcases member with inFront | rfl | behind
  · refine (Numeral.digit_point_or_sign_of_mem_text wellFormed inFront).imp_right ?_
    rintro (rfl | rfl) <;> decide
  · exact .inr (by decide)
  · rw [Decimal.exponentText, List.mem_cons] at behind
    rcases behind with rfl | digit
    · right
      split <;> decide
    · exact .inl (Decimal.isDigit_of_mem_padded digit)

end Settings

end Keypad
