import Keypad.Proofs.Computation
import Keypad.Proofs.Decimal.Closest
import Keypad.Proofs.NumberFormat.Canonical

/-!
Results that are computed.

A result between the bounds of the two notations is an expression, and its value is
the number but for two roundings: to the last place when it is written, and to the
format when it is read.  The second error is no larger than the first one, since the
number itself is in the format.

Both roundings are claimed as far as the digits of every such result can be counted.
With more places the digits in front of the point may bring their number beyond the
limit, where a formatter can lose them all before a precision is refused.

Owns:
- the precisions at which every number has a number of digits within the limit;
- the value of a result as an expression, and its distance to the number.

Main statement: `compute_format`.
-/

namespace Keypad.NumberFormat

section Positional

variable {negative : Bool} {quanta : ℕ} {representable : Binary64.Representable quanta}

/-- What is written with some places is read as a finite number. -/
private theorem isFinite_positionalNumeral
    (places : ℕ)
    (positionalNotation : isScientific (.finite negative quanta representable) = false) :
    (positionalNumeral places negative quanta).number.isFinite = true := by
  have small := (isScientific_eq_false_iff.mp positionalNotation).1
  obtain ⟨again, isNumber⟩ := number_positionalNumeral places negative small
  rw [isNumber]
  rfl

private theorem positionalNumeral_error
    (places : ℕ)
    (positionalNotation : isScientific (.finite negative quanta representable) = false) :
    |(positionalNumeral places negative quanta).number.value -
        (Binary64.finite negative quanta representable).value| ≤ 10 ^ (-(places : ℤ)) := by
  have rounded := (Binary64.toPlaces_nearestEven places negative representable).error
    (zpow_pos (by norm_num) _)
  have isFinite := isFinite_positionalNumeral places positionalNotation
  have own : (Binary64.finite negative quanta representable).isFinite = true := rfl
  rw [Numeral.number] at isFinite
  have closest := Binary64.ofDecimal_closest isFinite own
  rw [← Numeral.number] at closest
  rw [← value_positionalNumeral] at rounded
  generalize (Binary64.finite negative quanta representable).value = value at *
  generalize (positionalNumeral places negative quanta).number.value = again at *
  generalize (positionalNumeral places negative quanta).decimal.value = written at *
  calc
    |again - value| ≤ |again - written| + |written - value| := abs_sub_le _ _ _
    _ ≤ |written - value| + |written - value| := by
      rw [abs_sub_comm again written]
      exact add_le_add_left closest _
    _ ≤ 10 ^ (-(places : ℤ)) / 2 + 10 ^ (-(places : ℤ)) / 2 := by
      rw [abs_sub_comm written value]
      exact add_le_add rounded rounded
    _ = 10 ^ (-(places : ℤ)) := add_halves _

end Positional

/-- With that many places, no number between the bounds that has a fraction has more
digits than `precisionLimit`: at most twelve of them stand in front of the point. -/
def countedPrecision : ℤ :=
  precisionLimit - 12

/-- The text of a number between the bounds is computed to a number that differs from
it by one in the last place at most, as far as its digits can be counted.  Where that
many places cannot be written, there is no text. -/
theorem compute_format
    {number : Binary64}
    {precision : ℤ}
    (finite : number.isFinite = true)
    (nonnegative : 0 ≤ precision)
    (between : BetweenBounds number.value) :
    (precision ≤ countedPrecision →
        ∃ text again, format precision number = .ok text ∧ compute text = .ok again ∧
          again.isFinite = true ∧ |again.value - number.value| ≤ 10 ^ (-precision)) ∧
      (precisionLimit < precision → ∃ fault, format precision number = .error fault) := by
  refine ⟨fun counted => ?_, fun tooLarge => format_of_too_large finite tooLarge between⟩
  have usable : precision ≤ precisionLimit := counted.trans (by decide)
  have positionalNotation := (betweenBounds_iff finite).mp between
  have accepted := places_of_usable nonnegative usable
  obtain ⟨negative, quanta, representable, rfl⟩ := Binary64.exists_of_isFinite finite
  obtain ⟨count, rfl⟩ := Int.eq_ofNat_of_zero_le nonnegative
  have wellFormed : (positionalNumeral count negative quanta).WellFormed :=
    Decimal.trimmed_wellFormed _ _ _
  refine ⟨(positionalNumeral count negative quanta).text,
    (positionalNumeral count negative quanta).number.unsignZero,
    ?written, ?computed, ?isFinite, ?near⟩
  case written =>
    rw [← positional_eq]
    exact format_positional accepted positionalNotation
  case computed =>
    rw [compute_numeral wellFormed, reportValue,
      if_pos (isFinite_positionalNumeral count positionalNotation)]
  case isFinite =>
    rw [Binary64.isFinite_unsignZero]
    exact isFinite_positionalNumeral count positionalNotation
  case near =>
    rw [Binary64.value_unsignZero]
    exact positionalNumeral_error count positionalNotation

/-- Without places, two fifths below zero are written as zero. -/
theorem compute_format_vanishing :
    let number := Binary64.ofDecimal ⟨true, 4, -1⟩
    number.isFinite = true ∧ (0 : ℤ) ≤ 0 ∧ BetweenBounds number.value ∧
      format 0 number = .ok ['0'] ∧
      ∃ text again, format 0 number = .ok text ∧ compute text = .ok again ∧
        again.isFinite = true ∧ |again.value - number.value| ≤ 10 ^ (-0 : ℤ) := by
  intro number
  have finite : number.isFinite = true := by decide +kernel
  have between : BetweenBounds number.value :=
    (betweenBounds_iff finite).mpr (by decide +kernel)
  exact ⟨finite, le_refl 0, between, by decide +kernel,
    (compute_format finite (le_refl 0) between).1 (by decide)⟩

/-- With one place more than can be written, zero has no text that could be computed. -/
theorem nothing_to_compute_at_unusable_precision :
    Binary64.zero.isFinite = true ∧ (0 : ℤ) ≤ 2 ^ 31 ∧
      BetweenBounds Binary64.zero.value ∧
      ¬ ∃ text again, format (2 ^ 31) Binary64.zero = .ok text ∧
        compute text = .ok again := by
  have finite : Binary64.zero.isFinite = true := rfl
  have between : BetweenBounds Binary64.zero.value := .inl (Binary64.value_of_isZero rfl)
  obtain ⟨fault, refused⟩ :=
    format_of_too_large finite (by decide : precisionLimit < 2 ^ 31) between
  refine ⟨finite, by decide, between, ?_⟩
  rintro ⟨text, again, written, _⟩
  exact nomatch refused.symm.trans written

end Keypad.NumberFormat
