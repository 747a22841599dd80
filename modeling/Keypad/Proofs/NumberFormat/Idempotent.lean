import Keypad.Proofs.Decimal.Stable
import Keypad.Proofs.NumberFormat.Canonical
import Keypad.Proofs.Settings.Literal

/-!
Results that are written again.

The text of a result is read as the nearest number, and that number is written as the
same text, since neither notation can tell the two numbers apart.  Only the notation
itself may change.  The number that is read lies on the same side of the bounds as the
one that was written, or it is one of the bounds, and they are written without an
exponent: what was rounded to a bound in the notation with an exponent is written in
another way the second time.

Owns:
- the texts of numbers that were rounded to a bound;
- the number that is read from a text with an exponent, and its notation;
- how the number that is read is written.

Does not own: the digits that are written again.

Main statement: `format_idempotent`.
-/

namespace Keypad.NumberFormat

def boundTexts : List Text :=
  ["1e+12".toList, "-1e+12".toList, "1e-6".toList, "-1e-6".toList]

/-! ## Notation with an exponent -/

def scientificDecimal (negative : Bool) (quanta : ℕ) : Decimal :=
  { (mantissaNumeral negative quanta).decimal with
    exponent := (mantissaNumeral negative quanta).decimal.exponent +
      scientificExponent negative quanta }

/-- The count that is read where a count was written with an exponent. -/
def rereadScientific (negative : Bool) (quanta : ℕ) : ℕ :=
  Binary64.readQuanta (Binary64.toSignificant mantissaPlaces negative quanta)

section Scientific

variable
  (negative : Bool)
  {quanta : ℕ}
  (representable : Binary64.Representable quanta)
  (positive : 0 < quanta)
include representable positive

private theorem exponent_scientificDecimal_le :
    (scientificDecimal negative quanta).exponent ≤ 400 := by
  have leading := Binary64.leadingExponent_le positive representable
  have cases := scientificExponent_cases negative quanta
  simp only [scientificDecimal, Numeral.decimal]
  omega

/-- The text with an exponent is read as the decimal that was written. -/
private theorem read_scientific :
    Decimal.read? (scientific negative quanta) = some (scientificDecimal negative quanta) ∧
      Settings.readNumber (scientific negative quanta) =
        .ok (Binary64.ofDecimal (scientificDecimal negative quanta)) := by
  have wellFormed : (mantissaNumeral negative quanta).WellFormed :=
    Decimal.trimmed_wellFormed _ _ _
  rw [scientific_eq]
  exact ⟨Decimal.read?_text_exponent wellFormed 1 _,
    Settings.readNumber_text_exponent wellFormed 1
      (exponent_scientificDecimal_le negative representable positive)⟩

private theorem ofDecimal_scientificDecimal :
    ∃ again, Binary64.ofDecimal (scientificDecimal negative quanta) =
      .finite negative (rereadScientific negative quanta) again := by
  have inRange := Binary64.readQuanta_toSignificant_lt negative positive representable
  have value := congrArg abs (value_mantissaNumeral negative quanta)
  rw [Decimal.abs_value, Decimal.abs_value] at value
  obtain ⟨again, isNumber⟩ := Binary64.ofDecimal_of_inRange inRange
  rw [Binary64.toSignificant_negative] at isNumber
  refine ⟨again, Eq.trans ?_ isNumber⟩
  exact Binary64.ofDecimal_congr (Binary64.toSignificant_negative _ _ _).symm value

/-- With an exponent the same text is written. -/
private theorem scientific_reread :
    scientific negative (rereadScientific negative quanta) = scientific negative quanta := by
  have stable := Binary64.toSignificant_readQuanta negative positive representable
  simp only [scientific, rereadScientific, mantissaPlaces, stable]

private theorem rereadScientific_pos : 0 < rereadScientific negative quanta := by
  have stable := Binary64.toSignificant_readQuanta negative positive representable
  have full := (Binary64.toSignificant_coefficient 6 negative positive).1
  apply Nat.pos_of_ne_zero
  intro zero
  rw [rereadScientific, mantissaPlaces] at zero
  rw [← stable, zero, Binary64.toSignificant, Binary64.multiplesOf_zero,
    if_pos (by decide)] at full
  exact absurd full (by norm_num)

/-- What is read is a bound where it is not on the same side of the bounds as what was
written. -/
private theorem rereadScientific_eq_bound
    (outside : largestPositional < quanta ∨ 0 < quanta ∧ quanta < smallestPositional)
    (atMost : rereadScientific negative quanta ≤ largestPositional)
    (atLeast : smallestPositional ≤ rereadScientific negative quanta) :
    rereadScientific negative quanta = largestPositional ∨
      rereadScientific negative quanta = smallestPositional := by
  have unit : (0 : ℚ) < Binary64.quantaPerUnit := by
    exact_mod_cast Binary64.quantaPerUnit_pos
  have nearest := Binary64.magnitude_toSignificant_nearestEven mantissaPlaces negative
    positive (by decide)
  rcases outside with large | ⟨_, small⟩
  · left
    have above : (10 : ℚ) ^ (12 : ℤ) ≤ quanta / Binary64.quantaPerUnit := by
      rw [← value_scientificAbove_eq_zpow, value_scientificAbove]
      exact div_le_div_of_nonneg_right (by exact_mod_cast large.le) unit.le
    apply Nat.le_antisymm atMost
    apply Binary64.le_readQuanta _ representable_largestPositional
    rw [← value_scientificAbove, value_scientificAbove_eq_zpow]
    exact nearest.le_of_ge (zpow_mem_significant 6 12) above
  · right
    have below : (quanta : ℚ) / Binary64.quantaPerUnit ≤ 10 ^ (-6 : ℤ) := by
      refine le_trans ?_ scientificBelow_le_millionth
      rw [value_scientificBelow]
      exact div_le_div_of_nonneg_right (by exact_mod_cast small.le) unit.le
    have isBound : Binary64.readQuanta ⟨false, 1, -6⟩ = smallestPositional := by
      decide +kernel
    refine Nat.le_antisymm ?_ atLeast
    rw [← isBound]
    apply Binary64.readQuanta_mono
      (Binary64.readQuanta_toSignificant_lt negative positive representable)
    · rw [isBound]
      exact representable_smallestPositional.inRange
    · have isMillionth : (Decimal.magnitude ⟨false, 1, -6⟩) = 10 ^ (-6 : ℤ) := by
        rw [Decimal.magnitude, Nat.cast_one, one_mul]
      rw [isMillionth]
      exact nearest.le_of_le (zpow_mem_significant 6 (-6)) below

/-- Other texts than those of the bounds are written with an exponent again. -/
theorem isScientific_reread_of_not_mem
    {again : Binary64.Representable (rereadScientific negative quanta)}
    (scientificNotation : isScientific (.finite negative quanta representable) = true)
    (notBound : scientific negative quanta ∉ boundTexts) :
    isScientific (.finite negative (rereadScientific negative quanta) again) = true := by
  by_contra positionalNotation
  rw [Bool.not_eq_true, isScientific_eq_false_iff] at positionalNotation
  have nonzero := (rereadScientific_pos negative representable positive).ne'
  have isBound := rereadScientific_eq_bound negative representable positive
    (outside_of_isScientific scientificNotation) positionalNotation.1
    (positionalNotation.2.resolve_right nonzero)
  rw [← scientific_reread negative representable positive] at notBound
  rcases isBound with isLargest | isSmallest
  · rw [isLargest] at notBound
    cases negative <;> exact absurd notBound (by decide +kernel)
  · rw [isSmallest] at notBound
    cases negative <;> exact absurd notBound (by decide +kernel)

end Scientific

/-! ## Notation without one -/

/-- A bound is not written with an exponent. -/
theorem read_boundText
    {text : Text}
    (isBound : text ∈ boundTexts) :
    ∃ bound, Settings.readNumber text = .ok bound ∧ bound.isFinite = true ∧
      isScientific bound = false := by
  simp only [boundTexts, List.mem_cons, List.not_mem_nil, or_false] at isBound
  rcases isBound with rfl | rfl | rfl | rfl
  · exact ⟨scientificAbove, by decide +kernel, by decide +kernel, by decide +kernel⟩
  · exact ⟨scientificAbove.neg, by decide +kernel, by decide +kernel, by decide +kernel⟩
  · exact ⟨scientificBelow, by decide +kernel, by decide +kernel, by decide +kernel⟩
  · exact ⟨scientificBelow.neg, by decide +kernel, by decide +kernel, by decide +kernel⟩

/-- The text of a numeral has no exponent. -/
theorem text_not_mem_boundTexts
    {numeral : Numeral}
    (wellFormed : numeral.WellFormed) :
    numeral.text ∉ boundTexts := by
  have letters : ∀ text ∈ boundTexts, 'e' ∈ text := by decide
  intro isBound
  rcases Numeral.digit_point_or_sign_of_mem_text wellFormed (letters _ isBound) with
    digit | point | sign
  · contradiction
  · contradiction
  · contradiction

private theorem format_ne_boundText
    {precision : ℤ}
    {number : Binary64}
    {text : Text}
    (finite : number.isFinite = true)
    (positionalNotation : isScientific number = false)
    (isBound : text ∈ boundTexts) :
    format precision number ≠ .ok text := by
  intro written
  obtain ⟨numeral, wellFormed, _, ⟨_, rfl⟩ | ⟨scientificNotation, _⟩⟩ :=
    format_eq_ok finite written
  · exact text_not_mem_boundTexts wellFormed isBound
  · exact Bool.false_ne_true (positionalNotation.symm.trans scientificNotation)

/-! ## Texts that are written again -/

/-- With an exponent the same text is written but for those of the bounds, which are
written without one. -/
theorem format_scientific_reread
    (precision : ℤ)
    {negative : Bool}
    {quanta : ℕ}
    {representable : Binary64.Representable quanta}
    (hasExponent : isScientific (.finite negative quanta representable) = true) :
    Decimal.read? (scientific negative quanta) = some (scientificDecimal negative quanta) ∧
      Settings.readNumber (scientific negative quanta) =
        .ok (Binary64.ofDecimal (scientificDecimal negative quanta)) ∧
      (Binary64.ofDecimal (scientificDecimal negative quanta)).isFinite = true ∧
      (format precision (Binary64.ofDecimal (scientificDecimal negative quanta)) =
          .ok (scientific negative quanta) ↔
        scientific negative quanta ∉ boundTexts) := by
  have positive : 0 < quanta :=
    (outside_of_isScientific hasExponent).elim (Nat.lt_of_le_of_lt (Nat.zero_le _)) And.left
  obtain ⟨denoted, isRead⟩ := read_scientific negative representable positive
  obtain ⟨again, isNumber⟩ := ofDecimal_scientificDecimal negative representable positive
  refine ⟨denoted, isRead, by rw [isNumber]; rfl, ?_, ?_⟩
  · intro same isBound
    obtain ⟨bound, readAsBound, finite, positionalNotation⟩ := read_boundText isBound
    rw [isRead] at readAsBound
    rw [Except.ok.inj readAsBound] at same
    exact format_ne_boundText finite positionalNotation isBound same
  · intro notBound
    have stillScientific :
        isScientific (.finite negative (rereadScientific negative quanta) again) = true :=
      isScientific_reread_of_not_mem negative representable positive hasExponent notBound
    rw [isNumber, format, if_pos stillScientific,
      scientific_reread negative representable positive]

/-- A finite number has a text, as far as its places can be written.  The text is read as
the nearest number to what it denotes, and that number has the same text, unless the text
is one of a bound with an exponent. -/
theorem format_idempotent
    {number : Binary64}
    {precision : ℤ}
    (finite : number.isFinite = true)
    (nonnegative : 0 ≤ precision) :
    (precision ≤ precisionLimit ∨ ¬ BetweenBounds number.value →
        ∃ text, format precision number = .ok text) ∧
      (precisionLimit < precision → BetweenBounds number.value →
        ∃ fault, format precision number = .error fault) ∧
      ∀ text, format precision number = .ok text →
        ∃ decimal, Decimal.read? text = some decimal ∧
          Settings.readNumber text = .ok (Binary64.ofDecimal decimal) ∧
          (Binary64.ofDecimal decimal).isFinite = true ∧
          (format precision (Binary64.ofDecimal decimal) = .ok text ↔
            text ∉ boundTexts) := by
  refine ⟨?writable, format_of_too_large finite, ?again⟩
  case writable =>
    intro writable
    by_cases between : BetweenBounds number.value
    · have usable := writable.resolve_right (not_not_intro between)
      exact (format_between finite nonnegative usable between).imp fun _ => And.left
    · exact (format_beyond finite between).imp fun _ => And.left
  case again =>
    intro text written
    cases hasExponent : isScientific number with
    | false =>
        obtain ⟨numeral, wellFormed, rfl, again, same⟩ :=
          format_reread finite hasExponent written
        exact ⟨numeral.decimal, Decimal.read?_text wellFormed,
          Settings.readNumber_text wellFormed, again,
          iff_of_true same (text_not_mem_boundTexts wellFormed)⟩
    | true =>
        obtain ⟨negative, quanta, representable, rfl⟩ := Binary64.exists_of_isFinite finite
        rw [format, if_pos hasExponent] at written
        obtain rfl := Except.ok.inj written
        exact ⟨_, format_scientific_reread precision hasExponent⟩

/-- Rounding carries into the exponent, and the power of ten is written as such. -/
theorem format_idempotent_carried :
    let number := Binary64.ofDecimal ⟨false, 99999995, 5⟩
    number.isFinite = true ∧ (0 : ℤ) ≤ 12 ∧ format 12 number = .ok "1e+13".toList ∧
      ∃ decimal, Decimal.read? "1e+13".toList = some decimal ∧
        Settings.readNumber "1e+13".toList = .ok (Binary64.ofDecimal decimal) ∧
        (Binary64.ofDecimal decimal).isFinite = true ∧
        format 12 (Binary64.ofDecimal decimal) = .ok "1e+13".toList := by
  intro number
  have finite : number.isFinite = true := by decide +kernel
  have written : format 12 number = .ok "1e+13".toList := by decide +kernel
  obtain ⟨decimal, denoted, isRead, again, same⟩ :=
    (format_idempotent finite (by decide : (0 : ℤ) ≤ 12)).2.2 _ written
  exact ⟨finite, by decide, written, decimal, denoted, isRead, again,
    same.mpr (by decide)⟩

/-- What is rounded down to the upper bound is written without an exponent again. -/
example :
    format 12 (Binary64.ofDecimal ⟨false, 10000000000005, -1⟩) = .ok "1e+12".toList ∧
      format 12 (Binary64.ofDecimal ⟨false, 1, 12⟩) = .ok "1000000000000".toList := by
  decide +kernel

/-- With one place more than can be written, zero has no text that could be read. -/
theorem nothing_to_reread_at_unusable_precision :
    Binary64.zero.isFinite = true ∧ (0 : ℤ) ≤ 2 ^ 31 ∧
      ¬ ∃ text again, format (2 ^ 31) Binary64.zero = .ok text ∧
        Settings.readNumber text = .ok again ∧
        (format (2 ^ 31) again = .ok text ∨ text ∈ boundTexts) := by
  have finite : Binary64.zero.isFinite = true := rfl
  have between : BetweenBounds Binary64.zero.value := .inl (Binary64.value_of_isZero rfl)
  obtain ⟨fault, refused⟩ :=
    format_of_too_large finite (by decide : precisionLimit < 2 ^ 31) between
  refine ⟨finite, by decide, ?_⟩
  rintro ⟨text, again, written, _⟩
  exact nomatch refused.symm.trans written

end Keypad.NumberFormat
