import Keypad.Proofs.Decimal.Nearest
import Keypad.Proofs.Decimal.Reading
import Keypad.Proofs.NumberFormat.Reread

/-!
Results as rounded decimals.

The text of a finite number says which decimal the number was rounded to, and says it
in one way only.  Between the bounds of the two notations that is the nearest multiple
of the last place; outside of them it is the nearest decimal with seven significant
digits.

Owns:
- what the two notations look like, and what they denote;
- the numbers between the bounds;
- the text of a number with the other sign.

Does not own: the text of infinities and of what is no number.

Main statement: `format_canonical`.
-/

namespace Keypad

/-- A numeral without needless characters, and with no more than some places: no zero
stands in front of another digit, and a point only in front of digits, the last of
which is no zero. -/
structure Numeral.Compact (places : ℕ) (numeral : Numeral) : Prop
    extends numeral.WellFormed where
  hasWhole : numeral.whole ≠ []
  noZeroInFront : numeral.whole.head? = some '0' → numeral.whole = ['0']
  noBarePoint : numeral.fraction ≠ some []
  fewPlaces : numeral.decimals.length ≤ places
  noZeroAtEnd : numeral.decimals.getLast? ≠ some '0'

namespace NumberFormat

/-- An exponent as it stands behind its letter: a sign, and digits without a zero in
front. -/
structure IsExponent (sign : Char) (power : Text) : Prop where
  isSign : sign = '+' ∨ sign = '-'
  hasDigit : power ≠ []
  digitsOnly : ∀ character ∈ power, character.isDigit = true
  noZeroInFront : power.head? ≠ some '0'

/-- What is read from the text is the point of a grid that a value is rounded to. -/
def Denotes (text : Text) (grid even : Set ℚ) (value : ℚ) : Prop :=
  ∃ decimal, Decimal.read? text = some decimal ∧
    NearestEven grid even value decimal.value

/-- The text of a value that is rounded to some places behind the point. -/
structure PositionalText (places : ℕ) (value : ℚ) (text : Text) : Prop where
  form : ∃ numeral : Numeral, text = numeral.text ∧ numeral.Compact places
  notNegativeZero : text ≠ ['-', '0']
  nearest : Denotes text
    (multiples (10 ^ (-(places : ℤ)))) (multiples (2 * 10 ^ (-(places : ℤ)))) value

/-- The text of a value that is rounded to seven significant digits. -/
structure ScientificText (value : ℚ) (text : Text) : Prop where
  form : ∃ (numeral : Numeral) (digit sign : Char) (power : Text),
    text = numeral.text ++ 'e' :: sign :: power ∧ numeral.Compact 6 ∧
      numeral.whole = [digit] ∧ digit ≠ '0' ∧ IsExponent sign power
  nearest : Denotes text (significant 7) (evenSignificant 7) value

/-- Zero, and what lies between the bounds of the two notations. -/
def BetweenBounds (value : ℚ) : Prop :=
  value = 0 ∨ scientificBelow.value ≤ |value| ∧ |value| ≤ scientificAbove.value

end NumberFormat

/-! ## Numerals without needless characters -/

namespace Decimal

private theorem length_trimmedDigits_le (places number : ℕ) :
    (trimmedDigits places number).length ≤ places := by
  cases places with
  | zero =>
      rw [trimmedDigits_no_places]
      exact Nat.le_refl 0
  | succ fewer =>
      have fits : number % 10 ^ (fewer + 1) < 10 ^ (fewer + 1) :=
        Nat.mod_lt number (Nat.pow_pos (by decide))
      have filled := length_padded (Nat.succ_pos fewer) fits
      obtain ⟨zeros, whole, _⟩ :=
        Text.trimEnd_append (· = '0') (padded (fewer + 1) (number % 10 ^ (fewer + 1)))
      rw [← whole, List.length_append] at filled
      exact Nat.le.intro filled

private theorem trimmed_compact (negative : Bool) (places number : ℕ) :
    (trimmed negative places number).Compact places where
  toWellFormed := trimmed_wellFormed negative places number
  hasWhole := digits_ne_nil _
  noZeroInFront := by
    intro zero
    rcases Nat.eq_zero_or_pos (number / 10 ^ places) with none | positive
    · rw [trimmed, none]
      rfl
    · exact absurd zero (head?_digits positive)
  noBarePoint := by
    simp only [trimmed]
    split
    · simp
    · simpa using ‹trimmedDigits places number ≠ []›
  fewPlaces := by
    rw [decimals_trimmed]
    exact length_trimmedDigits_le places number
  noZeroAtEnd := by
    intro zero
    rw [decimals_trimmed] at zero
    exact absurd rfl (of_decide_eq_false (Text.getLast?_trimEnd zero))

/-- Digits in front of the point that are one digit, and no zero. -/
theorem whole_trimmed
    {places number : ℕ}
    (negative : Bool)
    (large : 10 ^ places ≤ number)
    (small : number < 10 ^ (places + 1)) :
    ∃ digit, (trimmed negative places number).whole = [digit] ∧ digit ≠ '0' := by
  have positive : 0 < number / 10 ^ places :=
    Nat.div_pos large (Nat.pow_pos (by decide))
  have single : number / 10 ^ places < 10 := by
    rw [Nat.div_lt_iff_lt_mul (Nat.pow_pos (by decide)), Nat.mul_comm, ← Nat.pow_succ]
    exact small
  refine ⟨Nat.digitChar (number / 10 ^ places), Nat.toDigits_of_lt_base single, ?_⟩
  intro zero
  exact positive.ne' (Nat.digitChar_eq_zero.mp zero)

private theorem magnitude_exponent (decimal : Decimal) (further : ℤ) :
    { decimal with exponent := decimal.exponent + further }.magnitude =
      decimal.magnitude * 10 ^ further := by
  rw [magnitude, magnitude, zpow_add₀ (by norm_num), mul_assoc]

end Decimal

namespace NumberFormat

variable {negative : Bool} {quanta : ℕ} {representable : Binary64.Representable quanta}

/-! ## Positional notation -/

/-- A body that is a zero alone has no value. -/
private theorem magnitude_of_body_zero
    {numeral : Numeral}
    (hasWhole : numeral.whole ≠ [])
    (body : numeral.body = ['0']) :
    numeral.decimal.magnitude = 0 := by
  obtain ⟨whole, nothing⟩ : numeral.whole = ['0'] ∧ numeral.fractionText = [] := by
    cases whole : numeral.whole with
    | nil => exact absurd whole hasWhole
    | cons first rest =>
        rw [Numeral.body, whole, List.cons_append, List.cons.injEq,
          List.append_eq_nil_iff] at body
        rw [body.1, body.2.1]
        exact ⟨rfl, body.2.2⟩
  have decimals : numeral.decimals = [] := by
    rw [Numeral.decimals]
    cases fraction : numeral.fraction with
    | none => rfl
    | some behind => simp [Numeral.fractionText, fraction] at nothing
  have zero : Decimal.ofDigits ['0'] = 0 := Decimal.ofDigits_digits 0
  rw [Decimal.magnitude_numeral, whole, decimals, zero]
  simp [Decimal.ofDigits]

/-- Only the sign of a zero is left out. -/
theorem value_positionalNumeral (places : ℕ) (negative : Bool) (quanta : ℕ) :
    (positionalNumeral places negative quanta).decimal.value =
      (Binary64.toPlaces places negative quanta).value := by
  have magnitude (signed : Bool) :
      (Decimal.trimmed signed places
          (Binary64.toPlaces places negative quanta).coefficient).decimal.magnitude =
        (Binary64.toPlaces places negative quanta).magnitude := by
    rw [Decimal.magnitude_trimmed, Decimal.magnitude, Binary64.toPlaces, zpow_neg,
      zpow_natCast, div_eq_mul_inv]
  rw [Decimal.value_eq, Decimal.value_eq, positionalNumeral, magnitude]
  by_cases zero : (Decimal.trimmed negative places
      (Binary64.toPlaces places negative quanta).coefficient).body = ['0']
  · have none := magnitude_of_body_zero (Decimal.digits_ne_nil _) zero
    rw [magnitude] at none
    simp [none]
  · simp only [zero, ne_eq, not_false_eq_true, decide_true, Bool.and_true]
    rfl

private theorem positionalNumeral_text_ne (places : ℕ) (negative : Bool) (quanta : ℕ) :
    (positionalNumeral places negative quanta).text ≠ ['-', '0'] := by
  intro same
  have wellFormed : (positionalNumeral places negative quanta).WellFormed :=
    Decimal.trimmed_wellFormed _ _ _
  obtain ⟨first, rest, body, starts⟩ := Numeral.body_head wellFormed
  cases sign : (positionalNumeral places negative quanta).negative with
  | false =>
      rw [Numeral.text, sign, if_neg Bool.false_ne_true, body] at same
      rw [(List.cons.inj same).1] at starts
      exact absurd starts (by decide)
  | true =>
      rw [Numeral.text, sign, if_pos rfl] at same
      have nonzero : (positionalNumeral places negative quanta).body ≠ ['0'] := by
        simp only [positionalNumeral, Decimal.trimmed_negative, Bool.and_eq_true,
          decide_eq_true_eq] at sign
        exact sign.2
      exact nonzero (List.cons.inj same).2

private theorem positional_canonical (places : ℕ) :
    PositionalText places (Binary64.finite negative quanta representable).value
      (positional places negative quanta) := by
  have compact : (positionalNumeral places negative quanta).Compact places :=
    Decimal.trimmed_compact _ _ _
  rw [positional_eq]
  refine ⟨⟨_, rfl, compact⟩, positionalNumeral_text_ne places negative quanta,
    _, Decimal.read?_text compact.toWellFormed, ?_⟩
  rw [value_positionalNumeral]
  exact Binary64.toPlaces_nearestEven places negative representable

/-! ## The bounds between the notations -/

theorem value_of_rank
    {number : Binary64}
    {rank : ℤ}
    (finite : number.isFinite = true)
    (ranked : number.rank = some rank) :
    number.value = rank / Binary64.quantaPerUnit := by
  obtain ⟨negative, quanta, representable, rfl⟩ := Binary64.exists_of_isFinite finite
  rw [← Option.some.inj ranked]
  rfl

theorem value_scientificAbove :
    scientificAbove.value = largestPositional / Binary64.quantaPerUnit := by
  rw [value_of_rank (by decide +kernel) rank_scientificAbove, Int.cast_natCast]

theorem value_scientificBelow :
    scientificBelow.value = smallestPositional / Binary64.quantaPerUnit := by
  rw [value_of_rank (by decide +kernel) rank_scientificBelow, Int.cast_natCast]

theorem value_scientificAbove_eq_zpow : scientificAbove.value = 10 ^ (12 : ℤ) := by
  have unit : (Binary64.quantaPerUnit : ℚ) ≠ 0 := by
    exact_mod_cast Binary64.quantaPerUnit_pos.ne'
  rw [value_scientificAbove, largestPositional, Nat.cast_mul, mul_div_cancel_right₀ _ unit]
  norm_num

theorem value_scientificBelow_eq_div :
    scientificBelow.value = 4722366482869645 / 2 ^ 72 := by
  have spacingPositive := Nat.two_pow_pos 1002
  rw [value_scientificBelow, smallestPositional,
    Binary64.quantaPerUnit_eq_mul 72 1002 rfl]
  generalize 2 ^ 1002 = spacing at *
  rw [Nat.cast_mul, Nat.cast_mul,
    mul_div_mul_right _ _ (Nat.cast_ne_zero.mpr spacingPositive.ne')]
  norm_num

theorem scientificBelow_le_millionth : scientificBelow.value ≤ 10 ^ (-6 : ℤ) := by
  rw [value_scientificBelow_eq_div]
  norm_num

theorem betweenBounds_iff
    {number : Binary64}
    (finite : number.isFinite = true) :
    BetweenBounds number.value ↔ isScientific number = false := by
  obtain ⟨negative, quanta, representable, rfl⟩ := Binary64.exists_of_isFinite finite
  have unit : (0 : ℚ) < Binary64.quantaPerUnit := by
    exact_mod_cast Binary64.quantaPerUnit_pos
  have isZero : (Binary64.finite negative quanta representable).value = 0 ↔
      quanta = 0 := by
    rw [← abs_eq_zero, Binary64.abs_value, div_eq_zero_iff, or_iff_left unit.ne',
      Nat.cast_eq_zero]
  rw [BetweenBounds, isScientific_eq_false_iff, isZero, Binary64.abs_value,
    value_scientificAbove, value_scientificBelow,
    div_le_div_iff_of_pos_right unit, div_le_div_iff_of_pos_right unit,
    Nat.cast_le, Nat.cast_le]
  constructor
  · rintro (rfl | ⟨fromSmallest, toLargest⟩)
    · exact ⟨Nat.zero_le _, .inr rfl⟩
    · exact ⟨toLargest, .inl fromSmallest⟩
  · rintro ⟨toLargest, fromSmallest | zero⟩
    · exact .inr ⟨fromSmallest, toLargest⟩
    · exact .inl zero

/-- A carry moves the first digit by one place. -/
theorem scientificExponent_cases (negative : Bool) (quanta : ℕ) :
    scientificExponent negative quanta = Binary64.leadingExponent quanta ∨
      scientificExponent negative quanta = Binary64.leadingExponent quanta + 1 := by
  unfold scientificExponent
  rcases Binary64.toSignificant_cases mantissaPlaces negative quanta with
    ⟨_, plain⟩ | ⟨_, carried⟩
  · left
    simp only [plain, sub_add_cancel]
  · right
    simp only [carried]
    ring

theorem outside_of_isScientific
    (scientificNotation :
      isScientific (.finite negative quanta representable) = true) :
    largestPositional < quanta ∨ 0 < quanta ∧ quanta < smallestPositional := by
  by_contra inside
  rw [not_or, not_and, not_lt, not_lt] at inside
  have positionalNotation :
      isScientific (.finite negative quanta representable) = false := by
    rw [isScientific_eq_false_iff]
    exact ⟨inside.1, (Nat.eq_zero_or_pos quanta).symm.imp_left inside.2⟩
  rw [positionalNotation] at scientificNotation
  contradiction

/-- Beyond the bounds the first digit does not stand in front of the point. -/
theorem scientificExponent_ne_zero
    (negative : Bool)
    (outside : largestPositional < quanta ∨ 0 < quanta ∧ quanta < smallestPositional) :
    scientificExponent negative quanta ≠ 0 := by
  have positive : 0 < quanta :=
    outside.elim (Nat.lt_of_le_of_lt (Nat.zero_le _)) And.left
  obtain ⟨lower, upper⟩ := Binary64.leadingExponent_bounds positive
  have cases := scientificExponent_cases negative quanta
  have unitPositive := Binary64.quantaPerUnit_pos
  have belowMillionth : smallestPositional * 10 ^ 6 < Binary64.quantaPerUnit := by
    decide +kernel
  rw [largestPositional] at outside
  generalize Binary64.leadingExponent quanta = leading at *
  generalize smallestPositional = smallest at *
  generalize Binary64.quantaPerUnit = unit at *
  have unitRational : (0 : ℚ) < unit := by exact_mod_cast unitPositive
  rcases outside with large | ⟨_, small⟩
  · have above : (10 : ℚ) ^ (12 : ℤ) < 10 ^ (leading + 1) := by
      refine lt_trans ?_ upper
      rw [lt_div_iff₀ unitRational]
      exact_mod_cast large
    have exponents := (zpow_lt_zpow_iff_right₀ (by norm_num)).mp above
    omega
  · have below : (10 : ℚ) ^ leading < 10 ^ (-6 : ℤ) := by
      refine lt_of_le_of_lt lower ?_
      rw [zpow_neg, div_lt_iff₀ unitRational, lt_inv_mul_iff₀ (by positivity), mul_comm]
      have scaled : quanta * 10 ^ 6 < unit :=
        lt_trans (Nat.mul_lt_mul_of_pos_right small (by decide)) belowMillionth
      exact_mod_cast scaled
    have exponents := (zpow_lt_zpow_iff_right₀ (by norm_num)).mp below
    omega

/-! ## Notation with an exponent -/

private theorem isExponent_exponentText
    {exponent : ℤ}
    (nonzero : exponent ≠ 0) :
    ∃ sign power, Decimal.exponentText 1 exponent = sign :: power ∧
      IsExponent sign power := by
  have digits : Decimal.padded 1 exponent.natAbs = Decimal.digits exponent.natAbs := by
    have filled : 1 ≤ (Decimal.digits exponent.natAbs).length :=
      List.length_pos_iff.mpr (Decimal.digits_ne_nil _)
    rw [Decimal.padded, List.leftpad, Nat.sub_eq_zero_of_le filled]
    rfl
  refine ⟨if exponent < 0 then '-' else '+', Decimal.digits exponent.natAbs, ?_, ?_⟩
  · rw [Decimal.exponentText, digits]
  · refine ⟨?_, Decimal.digits_ne_nil _, fun _ => Decimal.isDigit_of_mem_digits,
      Decimal.head?_digits (Int.natAbs_pos.mpr nonzero)⟩
    split
    · exact .inr rfl
    · exact .inl rfl

/-- The point of the mantissa and the exponent together place the digits. -/
theorem value_mantissaNumeral (negative : Bool) (quanta : ℕ) :
    { (mantissaNumeral negative quanta).decimal with
        exponent := (mantissaNumeral negative quanta).decimal.exponent +
          scientificExponent negative quanta }.value =
      (Binary64.toSignificant mantissaPlaces negative quanta).value := by
  have mantissa : (mantissaNumeral negative quanta).decimal.magnitude =
      (Binary64.toSignificant mantissaPlaces negative quanta).coefficient /
        10 ^ mantissaPlaces :=
    Decimal.magnitude_trimmed _ _ _
  rw [Decimal.value_eq, Decimal.value_eq, Decimal.magnitude_exponent, mantissa,
    scientificExponent, zpow_add₀ (by norm_num), zpow_natCast, Decimal.magnitude,
    div_mul_eq_mul_div, mul_div_assoc, mul_div_cancel_right₀ _ (by positivity),
    Binary64.toSignificant_negative]
  rfl

private theorem scientific_canonical
    (scientificNotation :
      isScientific (.finite negative quanta representable) = true) :
    ScientificText (Binary64.finite negative quanta representable).value
      (scientific negative quanta) := by
  have outside := outside_of_isScientific scientificNotation
  have nonzero := scientificExponent_ne_zero negative outside
  have positive : 0 < quanta :=
    outside.elim (Nat.lt_of_le_of_lt (Nat.zero_le _)) And.left
  obtain ⟨full, short⟩ :=
    Binary64.toSignificant_coefficient mantissaPlaces negative positive
  have compact : (mantissaNumeral negative quanta).Compact mantissaPlaces :=
    Decimal.trimmed_compact _ _ _
  obtain ⟨digit, single, notZero⟩ := Decimal.whole_trimmed negative full short
  obtain ⟨sign, power, exponent, isExponent⟩ := isExponent_exponentText nonzero
  have denoted := Decimal.read?_text_exponent compact.toWellFormed 1
    (scientificExponent negative quanta)
  rw [← scientific_eq] at denoted
  refine ⟨⟨mantissaNumeral negative quanta, digit, sign, power, ?_, compact, single,
    notZero, isExponent⟩, _, denoted, ?_⟩
  · rw [scientific_eq, exponent]
  · rw [value_mantissaNumeral]
    exact Binary64.toSignificant_nearestEven mantissaPlaces negative positive
      (by decide) representable

/-! ## The other sign -/

private theorem signedText_signedText (negative : Bool) (magnitude : Text) :
    signedText negative (signedText false magnitude) = signedText negative magnitude := by
  simp [signedText]

/-- The sign of a number decides over nothing but the sign of its text. -/
private theorem positional_signed (places : ℕ) (negative : Bool) (quanta : ℕ) :
    positional places negative quanta =
      signedText negative (positional places false quanta) :=
  (signedText_signedText negative _).symm

private theorem toSignificant_signed (negative : Bool) (quanta : ℕ) :
    Binary64.toSignificant mantissaPlaces negative quanta =
      { Binary64.toSignificant mantissaPlaces false quanta with negative := negative } := by
  simp only [Binary64.toSignificant]
  split <;> simp only

private theorem scientific_signed (negative : Bool) (quanta : ℕ) :
    scientific negative quanta = signedText negative (scientific false quanta) := by
  simp only [scientific, toSignificant_signed negative]
  exact (signedText_signedText negative _).symm

private theorem format_signed (precision : ℤ) (negative : Bool) :
    format precision (.finite negative quanta representable) =
      (format precision (.finite false quanta representable)).map
        (signedText negative) := by
  have sameNotation : isScientific (.finite negative quanta representable) =
      isScientific (.finite false quanta representable) := rfl
  rw [format, format, sameNotation]
  cases isScientific (.finite false quanta representable) with
  | true =>
      rw [if_pos rfl, if_pos rfl, scientific_signed negative]
      rfl
  | false =>
      rw [if_neg Bool.false_ne_true, if_neg Bool.false_ne_true]
      cases places precision with
      | error fault => rfl
      | ok count => exact congrArg Except.ok (positional_signed count negative quanta)

/-- A negative number has the text of the positive one with a sign in front, which a
zero does not get. -/
theorem format_neg
    {precision : ℤ}
    {number : Binary64}
    {text : Text}
    (positive : 0 < number.value)
    (written : format precision number = .ok text) :
    format precision number.neg =
      .ok (if text = ['0'] then ['0'] else '-' :: text) := by
  cases number with
  | infinite negative => exact absurd positive (lt_irrefl 0)
  | nan => exact absurd positive (lt_irrefl 0)
  | finite negative quanta representable =>
      cases negative with
      | true =>
          have notPositive : (0 : ℚ) ≤ quanta / Binary64.quantaPerUnit :=
            div_nonneg (Nat.cast_nonneg _) (Nat.cast_nonneg _)
          rw [Binary64.value_finite, if_pos rfl] at positive
          linarith
      | false =>
          rw [Binary64.neg, Bool.not_false, format_signed, written]
          by_cases zero : text = ['0']
          · simp [Except.map, signedText, zero]
          · simp [Except.map, signedText, zero]

/-! ## Every finite number -/

section Finite

variable {number : Binary64} {precision : ℤ}

theorem format_between
    (finite : number.isFinite = true)
    (nonnegative : 0 ≤ precision)
    (usable : precision ≤ precisionLimit)
    (between : BetweenBounds number.value) :
    ∃ text, format precision number = .ok text ∧
      PositionalText precision.toNat number.value text := by
  have positionalNotation := (betweenBounds_iff finite).mp between
  have accepted := places_of_usable nonnegative usable
  obtain ⟨negative, quanta, representable, rfl⟩ := Binary64.exists_of_isFinite finite
  exact ⟨_, format_positional accepted positionalNotation,
    positional_canonical precision.toNat⟩

/-- That many places cannot be written. -/
theorem format_of_too_large
    (finite : number.isFinite = true)
    (tooLarge : precisionLimit < precision)
    (between : BetweenBounds number.value) :
    ∃ fault, format precision number = .error fault := by
  have positionalNotation := (betweenBounds_iff finite).mp between
  obtain ⟨negative, quanta, representable, rfl⟩ := Binary64.exists_of_isFinite finite
  rw [format, positionalNotation, if_neg Bool.false_ne_true]
  cases answer : places precision with
  | error fault => exact ⟨fault, rfl⟩
  | ok count => exact absurd (usable_of_places answer).2 (Int.not_le.mpr tooLarge)

theorem format_beyond
    (finite : number.isFinite = true)
    (beyond : ¬ BetweenBounds number.value) :
    ∃ text, format precision number = .ok text ∧ ScientificText number.value text := by
  rw [betweenBounds_iff finite, Bool.not_eq_false] at beyond
  obtain ⟨negative, quanta, representable, rfl⟩ := Binary64.exists_of_isFinite finite
  refine ⟨scientific negative quanta, ?_, scientific_canonical beyond⟩
  rw [format, if_pos beyond]

/-- Between the bounds the text of a finite number denotes the nearest multiple of the
last place, as far as that many places can be written; beyond them it denotes the
nearest decimal with seven significant digits.  The other sign changes nothing but the
sign in front of the text. -/
theorem format_canonical
    (finite : number.isFinite = true)
    (nonnegative : 0 ≤ precision) :
    (BetweenBounds number.value →
        (precision ≤ precisionLimit →
          ∃ text, format precision number = .ok text ∧
            PositionalText precision.toNat number.value text) ∧
        (precisionLimit < precision →
          ∃ fault, format precision number = .error fault)) ∧
      (¬ BetweenBounds number.value →
        ∃ text, format precision number = .ok text ∧
          ScientificText number.value text) ∧
      (0 < number.value →
        ∀ text, format precision number = .ok text →
          format precision number.neg =
            .ok (if text = ['0'] then ['0'] else '-' :: text)) := by
  refine ⟨fun between => ⟨?usable, ?tooLarge⟩, ?beyond, ?negated⟩
  case usable => exact fun usable => format_between finite nonnegative usable between
  case tooLarge => exact fun tooLarge => format_of_too_large finite tooLarge between
  case beyond => exact format_beyond finite
  case negated => exact fun positive text written => format_neg positive written

end Finite

/-- Two and a half lies between two whole numbers, the even one of which is written; a
quarter of a millionth has an exponent. -/
theorem format_canonical_half_and_tiny :
    let half := Binary64.ofDecimal ⟨false, 25, -1⟩
    let tiny := Binary64.ofDecimal ⟨true, 25, -8⟩
    half.isFinite = true ∧ tiny.isFinite = true ∧ (0 : ℤ) ≤ 0 ∧
      (∃ text, format 0 half = .ok text ∧ PositionalText 0 half.value text) ∧
      format 0 half.neg = .ok ['-', '2'] ∧
      ∃ text, format 0 tiny = .ok text ∧ ScientificText tiny.value text := by
  intro half tiny
  have finite : half.isFinite = true := by decide +kernel
  have tinyFinite : tiny.isFinite = true := by decide +kernel
  have between : BetweenBounds half.value :=
    (betweenBounds_iff finite).mpr (by decide +kernel)
  have beyond : ¬ BetweenBounds tiny.value := by
    rw [betweenBounds_iff tinyFinite]
    decide +kernel
  have positive : 0 < half.value := by
    have ranked : half.rank = some (5 * 2 ^ 1073) := by decide +kernel
    rw [value_of_rank finite ranked]
    exact div_pos (by positivity) (by exact_mod_cast Binary64.quantaPerUnit_pos)
  have written : format 0 half = .ok ['2'] := by decide +kernel
  have canonical := format_canonical finite (le_refl 0)
  refine ⟨finite, tinyFinite, le_refl 0, (canonical.1 between).1 (by decide), ?_,
    (format_canonical tinyFinite (le_refl 0)).2.1 beyond⟩
  exact canonical.2.2 positive ['2'] written

/-- Rounding carries into the exponent. -/
example :
    format 12 (Binary64.ofDecimal ⟨false, 99999995, 5⟩) = .ok "1e+13".toList := by
  decide +kernel

/-- With one place more than can be written, not even zero has a text. -/
theorem no_text_at_unusable_precision :
    Binary64.zero.isFinite = true ∧ (0 : ℤ) ≤ 2 ^ 31 ∧
      BetweenBounds Binary64.zero.value ∧
      ∀ text, format (2 ^ 31) Binary64.zero ≠ .ok text := by
  have finite : Binary64.zero.isFinite = true := rfl
  have between : BetweenBounds Binary64.zero.value :=
    (betweenBounds_iff finite).mpr (by decide +kernel)
  obtain ⟨fault, refused⟩ :=
    format_of_too_large finite (by decide : precisionLimit < 2 ^ 31) between
  refine ⟨finite, by decide, between, ?_⟩
  intro text written
  exact nomatch refused.symm.trans written

end NumberFormat

end Keypad
