import Keypad.Proofs.Binary64.SignOfZero
import Keypad.Proofs.Decimal.Value

/-!
Results that are read again.

A result without an exponent is rounded twice: to decimal steps when it is written,
and back to a representable count when it is read.  The count that is read is no
farther from the steps than the one that was written, so that it is written with the
same steps; and neither bound between the notations lies in between.

Owns:
- the counts that have a positional notation;
- the count that is read again, and its steps;
- the text of the number that is read again.

Main statement: `format_reread`.
-/

namespace Keypad

namespace NumberFormat

/-! ## The bounds between the notations -/

def largestPositional : ℕ :=
  10 ^ 12 * Binary64.quantaPerUnit

/-- The smallest count but zero with a positional notation.  It lies a little below
its decimal, by less than half of the spacing there. -/
def smallestPositional : ℕ :=
  4722366482869645 * 2 ^ 1002

theorem rank_scientificAbove :
    scientificAbove.rank = some (largestPositional : ℤ) := by
  decide +kernel

theorem rank_scientificBelow :
    scientificBelow.rank = some (smallestPositional : ℤ) := by
  decide +kernel

theorem representable_largestPositional : Binary64.Representable largestPositional := by
  rw [largestPositional, Binary64.quantaPerUnit]
  exact Binary64.representable_mul_two_pow (by decide) (by decide)

theorem representable_smallestPositional :
    Binary64.Representable smallestPositional := by
  rw [smallestPositional]
  exact @Binary64.representable_mul_two_pow 4722366482869645 1002 (by decide) (by decide)

theorem isScientific_eq_false_iff
    {negative : Bool}
    {quanta : ℕ}
    {representable : Binary64.Representable quanta} :
    isScientific (.finite negative quanta representable) = false ↔
      quanta ≤ largestPositional ∧ (smallestPositional ≤ quanta ∨ quanta = 0) := by
  have above : scientificAbove.less (.finite false quanta representable) =
      decide ((largestPositional : ℤ) < quanta) := by
    rw [Binary64.less, rank_scientificAbove]
    rfl
  have below : (Binary64.finite false quanta representable).less scientificBelow =
      decide ((quanta : ℤ) < smallestPositional) := by
    rw [Binary64.less, rank_scientificBelow]
    rfl
  simp only [isScientific, Binary64.magnitude, above, below, Binary64.isZero,
    Bool.or_eq_false_iff, Bool.and_eq_false_iff, Bool.not_eq_false',
    decide_eq_false_iff_not, decide_eq_true_eq, Nat.cast_lt, not_lt]

/-! ## Reading what was written -/

section Reread

def steps (places quanta : ℕ) : ℕ :=
  Binary64.multiplesOf (-(places : ℤ)) quanta

/-- The count that is read where a count was written with some places. -/
def reread (places quanta : ℕ) : ℕ :=
  Binary64.nearest (steps places quanta * Binary64.quantaPerUnit) (10 ^ places)

variable {places quanta : ℕ}

@[simp] theorem steps_zero (places : ℕ) : steps places 0 = 0 :=
  Binary64.multiplesOf_zero _

private theorem roundsTo_steps (places quanta : ℕ) :
    RoundsTo (quanta * 10 ^ places / Binary64.quantaPerUnit) (steps places quanta) := by
  have rounds := Binary64.roundsTo_multiplesOf (-(places : ℤ)) quanta
  rw [zpow_neg, zpow_natCast, div_inv_eq_mul, div_mul_eq_mul_div] at rounds
  exact rounds

/-- A distance in quanta is one in decimal steps. -/
theorem distance_in_steps
    {unit power : ℕ}
    (unitPositive : 0 < unit)
    (powerPositive : 0 < power)
    (whole count : ℕ) :
    |(count : ℚ) * power / unit - whole| =
      |((whole * unit : ℕ) : ℚ) / power - count| * (power / unit) := by
  have unitRational : (0 : ℚ) < unit := by exact_mod_cast unitPositive
  have powerRational : (0 : ℚ) < power := by exact_mod_cast powerPositive
  have scaled : (count : ℚ) * power / unit - whole =
      -(((whole * unit : ℕ) : ℚ) / power - count) * (power / unit) := by
    push_cast
    field_simp
    ring
  rw [scaled, abs_mul, abs_neg, abs_of_pos (div_pos powerRational unitRational)]

private theorem steps_reread
    (places : ℕ)
    (representable : Binary64.Representable quanta) :
    steps places (reread places quanta) = steps places quanta := by
  have places10 : 0 < 10 ^ places := Nat.pow_pos (by decide)
  have rounds := roundsTo_steps places quanta
  have again := roundsTo_steps places (reread places quanta)
  have nearest := Binary64.nearest_closest
    (steps places quanta * Binary64.quantaPerUnit) places10 representable
  rw [← reread] at nearest
  have inSteps :=
    distance_in_steps Binary64.quantaPerUnit_pos places10 (steps places quanta)
  push_cast at inSteps nearest
  have nearer := mul_le_mul_of_nonneg_right nearest
    (div_nonneg (pow_nonneg (by norm_num) places) (Nat.cast_nonneg _) :
      (0 : ℚ) ≤ 10 ^ places / Binary64.quantaPerUnit)
  rw [← inSteps, ← inSteps] at nearer
  exact again.unique (rounds.of_nearer nearer)

private theorem reread_le (small : quanta ≤ largestPositional) :
    reread places quanta ≤ largestPositional := by
  have places10 : 0 < 10 ^ places := Nat.pow_pos (by decide)
  have unitPositive := Binary64.quantaPerUnit_pos
  have rounds := roundsTo_steps places quanta
  have largest := representable_largestPositional
  unfold reread
  generalize steps places quanta = written at *
  rw [largestPositional] at *
  generalize Binary64.quantaPerUnit = unit at *
  have bounded : written ≤ 10 ^ 12 * 10 ^ places := by
    apply rounds.le_of_le
    rw [div_le_iff₀ (by exact_mod_cast unitPositive)]
    have scaled := Nat.mul_le_mul_right (10 ^ places) small
    rw [Nat.mul_right_comm] at scaled
    exact_mod_cast scaled
  apply Binary64.nearest_le _ places10 largest
  rw [div_le_iff₀ (by exact_mod_cast places10)]
  have scaled := Nat.mul_le_mul_right unit bounded
  rw [Nat.mul_right_comm] at scaled
  exact_mod_cast scaled

/-- Some steps of less than a millionth in all leave room for another one. -/
private theorem another_step
    {whole : ℕ}
    (nonzero : whole ≠ 0)
    (below : whole * 10 ^ 6 < 10 ^ places) :
    (whole + 1) * 10 ^ 6 ≤ 10 ^ places := by
  have fine : 6 ≤ places := by
    have above : 10 ^ 6 < 10 ^ places :=
      Nat.lt_of_le_of_lt (Nat.le_mul_of_pos_left _ (Nat.pos_of_ne_zero nonzero)) below
    exact Nat.le_of_lt ((Nat.pow_lt_pow_iff_right (by decide)).mp above)
  obtain ⟨room, isPower⟩ := Nat.pow_dvd_pow 10 fine
  rw [isPower, Nat.mul_comm] at below ⊢
  exact Nat.mul_le_mul_left _ (Nat.lt_of_mul_lt_mul_left below)

/-- Steps below the bound that a count above it was rounded to are so fine, and so
close to the bound, that less than half of the spacing lies in between. -/
private theorem steps_near_smallest
    {spacing : ℚ}
    {whole : ℕ}
    (positive : 0 < spacing)
    (large : 4722366482869645 * spacing ≤ quanta)
    (rounds : RoundsTo (quanta * 10 ^ places / (2 ^ 72 * spacing)) whole)
    (nonzero : whole ≠ 0)
    (below : whole * (2 ^ 72 * spacing) / 10 ^ places < 4722366482869645 * spacing) :
    4722366482869645 * spacing - spacing / 2 <
      whole * (2 ^ 72 * spacing) / 10 ^ places := by
  have power : (0 : ℚ) < 10 ^ places := by positivity
  have unit : 0 < 2 ^ 72 * spacing := by positivity
  have rounded := (abs_le.mp rounds.near).2
  have fewer : (whole : ℚ) * 10 ^ 6 < 10 ^ places := by
    rw [div_lt_iff₀ power] at below
    have scaled : spacing * (2 ^ 72 * whole) <
        spacing * (4722366482869645 * 10 ^ places) := by linarith
    have unscaled := lt_of_mul_lt_mul_left scaled positive.le
    linarith
  have another : ((whole : ℚ) + 1) * 10 ^ 6 ≤ 10 ^ places := by
    exact_mod_cast another_step nonzero (by exact_mod_cast fewer)
  -- The count is half a step above the written steps at most, and another step still
  -- fits below the decimal of the bound.
  set step := 2 ^ 72 * spacing / 10 ^ places with isStep
  have written : whole * (2 ^ 72 * spacing) / 10 ^ places = whole * step := by
    rw [isStep, mul_div_assoc]
  have nearest : (quanta : ℚ) ≤ (whole + 1 / 2) * step := by
    have inSteps : (quanta : ℚ) * 10 ^ places / (2 ^ 72 * spacing) ≤ whole + 1 / 2 := by
      linarith
    rw [div_le_iff₀ unit] at inSteps
    rw [isStep, ← mul_div_assoc, le_div_iff₀ power]
    exact inSteps
  have room : (whole + 1) * step ≤ 2 ^ 72 * spacing / 10 ^ 6 := by
    rw [isStep, ← mul_div_assoc, div_le_div_iff₀ power (by norm_num)]
    have scaled := mul_le_mul_of_nonneg_right another unit.le
    linarith
  rw [written]
  linarith

private theorem smallestPositional_le_reread
    (large : smallestPositional ≤ quanta)
    (nonzero : steps places quanta ≠ 0) :
    smallestPositional ≤ reread places quanta := by
  have places10 : 0 < 10 ^ places := Nat.pow_pos (by decide)
  have rounds := roundsTo_steps places quanta
  have smallest := representable_smallestPositional
  have inUnit := Binary64.quantaPerUnit_eq_mul 72 1002 rfl
  have positive : 0 < 2 ^ 1002 := Nat.two_pow_pos 1002
  by_contra passed
  have below : reread places quanta < smallestPositional := Nat.lt_of_not_le passed
  have representable : Binary64.Representable (reread places quanta) :=
    ⟨Nat.lt_trans below smallest.inRange, Binary64.nearest_significant _ _⟩
  -- What is below the bound is a whole spacing below it, and the steps are nearer to
  -- the bound than that.
  have nextBelow := representable.le_of_lt (by decide) below
  have closest := Binary64.nearest_closest
    (steps places quanta * Binary64.quantaPerUnit) places10 smallest
  have notAbove : ¬ (smallestPositional : ℚ) ≤
      ((steps places quanta * Binary64.quantaPerUnit : ℕ) : ℚ) / (10 ^ places : ℕ) :=
    fun above => passed (Binary64.le_nearest _ places10 smallest above)
  rw [← reread] at closest
  generalize steps places quanta = written at *
  generalize reread places quanta = again at *
  rw [inUnit] at *
  unfold smallestPositional at *
  generalize (2 : ℕ) ^ 1002 = spacing at *
  have nextBelowRational : (again : ℚ) ≤ 4722366482869644 * spacing := by
    exact_mod_cast nextBelow
  push_cast at *
  have near := steps_near_smallest (by exact_mod_cast positive)
    (by exact_mod_cast large) rounds nonzero (lt_of_not_ge notAbove)
  rw [abs_of_neg (sub_neg.mpr (lt_of_not_ge notAbove))] at closest
  have distance := (le_abs_self _).trans closest
  linarith

private theorem reread_of_no_steps (none : steps places quanta = 0) :
    reread places quanta = 0 := by
  rw [reread, none, Nat.zero_mul]
  simp [Binary64.nearest, roundHalfEven]

/-- What is read again where a count was written has a positional notation, too. -/
theorem isScientific_reread
    {negative signed : Bool}
    {representable : Binary64.Representable quanta}
    {again : Binary64.Representable (reread places quanta)}
    (positionalNotation : isScientific (.finite negative quanta representable) = false) :
    isScientific (.finite signed (reread places quanta) again) = false := by
  rw [isScientific_eq_false_iff] at positionalNotation ⊢
  refine ⟨reread_le positionalNotation.1, ?_⟩
  by_cases none : steps places quanta = 0
  · exact .inr (reread_of_no_steps none)
  · rcases positionalNotation.2 with large | zero
    · exact .inl (smallestPositional_le_reread large none)
    · rw [zero, steps_zero] at none
      exact absurd rfl none

theorem number_positionalNumeral
    (places : ℕ)
    (negative : Bool)
    (small : quanta ≤ largestPositional) :
    ∃ again, (positionalNumeral places negative quanta).number =
      .finite (positionalNumeral places negative quanta).negative
        (reread places quanta) again := by
  have inRange : reread places quanta < Binary64.overflowBound :=
    Nat.lt_of_le_of_lt (reread_le small) representable_largestPositional.inRange
  have places10 : 0 < 10 ^ places := Nat.pow_pos (by decide)
  refine ⟨⟨inRange, Binary64.nearest_significant _ _⟩, ?_⟩
  rw [positionalNumeral, Decimal.trimmed_number, Binary64.toPlaces,
    Binary64.ofDecimal_places, Binary64.round]
  exact dif_pos inRange

private theorem signedText_unless_zero (negative : Bool) (magnitude : Text) :
    signedText (negative && decide (magnitude ≠ ['0'])) magnitude =
      signedText negative magnitude := by
  by_cases zero : magnitude = ['0']
  · simp [signedText, zero]
  · simp [signedText, zero]

/-- Only the steps of a count and its sign are written, the sign unless they are
zero. -/
private theorem positional_of_steps
    {negative signed : Bool}
    {other : ℕ}
    (same : steps places other = steps places quanta)
    (signs : signed = (positionalNumeral places negative quanta).negative ∨
      steps places quanta = 0) :
    positional places signed other = positional places negative quanta := by
  simp only [steps] at same signs
  simp only [positional, positionalNumeral, Binary64.toPlaces, same,
    Decimal.trimFraction_pointed negative, Decimal.trimmed_negative] at signs ⊢
  rcases signs with rfl | none
  · exact signedText_unless_zero negative _
  · rw [none, Decimal.body_trimmed_zero]
    simp [signedText]

end Reread

theorem format_positional
    {precision : ℤ}
    {count quanta : ℕ}
    {negative : Bool}
    {representable : Binary64.Representable quanta}
    (accepted : places precision = .ok count)
    (positionalNotation : isScientific (.finite negative quanta representable) = false) :
    format precision (.finite negative quanta representable) =
      .ok (positional count negative quanta) := by
  rw [format, positionalNotation, if_neg Bool.false_ne_true, accepted]
  rfl

/-- Zero has no sign in its text. -/
theorem format_signedZero (precision : ℤ) (negative : Bool) :
    format precision (.signedZero negative) = format precision .zero := by
  have positionalNotation (sign : Bool) :
      isScientific (.finite sign 0 Binary64.representable_zero) = false :=
    isScientific_eq_false_iff.mpr ⟨Nat.zero_le _, .inr rfl⟩
  rw [Binary64.zero, Binary64.signedZero, Binary64.signedZero, format, format,
    positionalNotation, positionalNotation, if_neg Bool.false_ne_true,
    if_neg Bool.false_ne_true]
  cases places precision with
  | error fault => rfl
  | ok count =>
      exact congrArg Except.ok (positional_of_steps rfl (.inr (steps_zero count)))

theorem format_unsignZero (precision : ℤ) (number : Binary64) :
    format precision number.unsignZero = format precision number := by
  rw [Binary64.unsignZero]
  split
  · rename_i isZero
    obtain ⟨negative, rfl⟩ := Binary64.eq_signedZero_of_isZero isZero
    rw [format_signedZero]
  · rfl

/-- A positional notation is read as a number that is written in the same way. -/
theorem format_reread
    {precision : ℤ}
    {value : Binary64}
    {text : Text}
    (finite : value.isFinite = true)
    (positionalNotation : isScientific value = false)
    (written : format precision value = .ok text) :
    ∃ numeral : Numeral, numeral.WellFormed ∧ text = numeral.text ∧
      numeral.number.isFinite = true ∧ format precision numeral.number = .ok text := by
  obtain ⟨negative, quanta, representable, rfl⟩ := Binary64.exists_of_isFinite finite
  rw [format, positionalNotation, if_neg Bool.false_ne_true] at written
  obtain ⟨count, accepted, answered⟩ := ok_of_bind written
  obtain rfl := Except.ok.inj answered
  have small := (isScientific_eq_false_iff.mp positionalNotation).1
  obtain ⟨again, isNumber⟩ := number_positionalNumeral count negative small
  refine ⟨positionalNumeral count negative quanta,
    Decimal.trimmed_wellFormed _ _ _, positional_eq count negative quanta, ?_, ?_⟩
  · rw [isNumber]
    rfl
  · rw [isNumber, format_positional accepted (isScientific_reread positionalNotation),
      positional_of_steps (steps_reread count representable) (.inl rfl)]

end NumberFormat

end Keypad
