import Keypad.Proofs.Binary64.Nearest
import Keypad.Proofs.NumberFormat.Written

/-!
The values of decimals.

Owns:
- the rational that a decimal stands for, but for its sign;
- decimals of one value, which round to one number;
- the value of digits behind a point, and of a numeral without needless zeros;
- the decimal steps that a number is rounded to.

Does not own: how far a number and its decimal are apart.

Main statements: `ofDecimal_congr`, `trimmed_number`.
-/

namespace Keypad

def Decimal.magnitude (decimal : Decimal) : ℚ :=
  decimal.coefficient * (10 : ℚ) ^ decimal.exponent

theorem Decimal.magnitude_nonneg (decimal : Decimal) : 0 ≤ decimal.magnitude :=
  mul_nonneg (Nat.cast_nonneg _) (zpow_nonneg (by norm_num) _)

namespace Binary64

theorem quantaPerUnit_eq_mul
    (front back : ℕ)
    (whole : front + back = unitShift) :
    quantaPerUnit = 2 ^ front * 2 ^ back := by
  rw [quantaPerUnit, ← whole, Nat.pow_add]

private theorem round_congr
    (negative : Bool)
    {numerator denominator otherNumerator otherDenominator : ℕ}
    (positive : 0 < denominator)
    (otherPositive : 0 < otherDenominator)
    (same : (numerator : ℚ) / denominator = otherNumerator / otherDenominator) :
    round negative numerator denominator =
      round negative otherNumerator otherDenominator := by
  simp only [round, nearest_congr numerator positive otherPositive same]

/-- The quotient of a decimal in quanta. -/
theorem quanta_of_quotient (decimal : Decimal) :
    ((decimal.quotient.1 * quantaPerUnit : ℕ) : ℚ) / decimal.quotient.2 =
      decimal.magnitude * quantaPerUnit := by
  unfold Decimal.quotient Decimal.magnitude
  generalize quantaPerUnit = unit
  cases decimal.exponent with
  | ofNat up => simp
  | negSucc down =>
      simp only [zpow_negSucc]
      push_cast
      ring

/-- Only the sign and the value of a decimal matter to its rounding. -/
theorem ofDecimal_congr
    {left right : Decimal}
    (negative : left.negative = right.negative)
    (magnitude : left.magnitude = right.magnitude) :
    ofDecimal left = ofDecimal right := by
  rw [ofDecimal, ofDecimal, negative]
  apply round_congr _ left.quotient_den_pos right.quotient_den_pos
  rw [quanta_of_quotient, quanta_of_quotient, magnitude]

/-- A decimal with places behind the point is a quotient by their power of ten. -/
theorem ofDecimal_places (negative : Bool) (coefficient places : ℕ) :
    ofDecimal ⟨negative, coefficient, -(places : ℤ)⟩ =
      round negative (coefficient * quantaPerUnit) (10 ^ places) := by
  rw [ofDecimal]
  apply round_congr _ (Decimal.quotient_den_pos _) (Nat.pow_pos (by decide))
  rw [quanta_of_quotient, Decimal.magnitude, zpow_neg, zpow_natCast]
  push_cast
  ring

theorem multiplesOf_zero (exponent : ℤ) : multiplesOf exponent 0 = 0 := by
  cases exponent with
  | ofNat up => simp [multiplesOf, roundHalfEven]
  | negSucc down => simp [multiplesOf, roundHalfEven]

/-- A count of quanta goes to the nearest multiple of a power of ten. -/
theorem roundsTo_multiplesOf (exponent : ℤ) (quanta : ℕ) :
    RoundsTo (quanta / quantaPerUnit / 10 ^ exponent) (multiplesOf exponent quanta) := by
  have positive := quantaPerUnit_pos
  unfold multiplesOf
  generalize quantaPerUnit = unit at *
  cases exponent with
  | ofNat up =>
      have rounds := roundsTo_roundHalfEven quanta
        (Nat.mul_pos (Nat.pow_pos (by decide) : 0 < 10 ^ up) positive)
      push_cast at rounds
      rw [mul_comm, ← div_div] at rounds
      exact rounds
  | negSucc down =>
      have rounds := roundsTo_roundHalfEven (quanta * 10 ^ (down + 1)) positive
      push_cast at rounds
      rw [mul_div_right_comm] at rounds
      rw [zpow_negSucc, div_inv_eq_mul]
      exact rounds

end Binary64

namespace Decimal

theorem ofDigits_append (front back : Text) :
    ofDigits (front ++ back) = 10 ^ back.length * ofDigits front + ofDigits back := by
  rw [ofDigits, Nat.ofDigitChars_append, Nat.ofDigitChars_eq_ofDigitChars_zero]
  rfl

/-- Zeros at the end of a fraction do not count. -/
private theorem fraction_trimEnd (fraction : Text) :
    (ofDigits (Text.trimEnd (· = '0') fraction) : ℚ) /
        10 ^ (Text.trimEnd (· = '0') fraction).length =
      ofDigits fraction / 10 ^ fraction.length := by
  obtain ⟨zeros, whole, allZero⟩ := Text.trimEnd_append (· = '0') fraction
  obtain ⟨count, rfl⟩ : ∃ count, zeros = List.replicate count '0' :=
    ⟨zeros.length, List.eq_replicate_of_mem (by simpa using allZero)⟩
  have zeroValue : ofDigits (List.replicate count '0') = 0 := by
    simp [ofDigits, Nat.ofDigitChars_replicate_zero]
  generalize Text.trimEnd (· = '0') fraction = kept at *
  rw [← whole, ofDigits_append, zeroValue, List.length_append, List.length_replicate]
  push_cast
  rw [pow_add]
  field_simp
  ring

/-- Digits that fill their places are a fraction of that many places. -/
private theorem fraction_padded
    {places number : ℕ}
    (fits : number < 10 ^ places) :
    (ofDigits (padded places number) : ℚ) / 10 ^ (padded places number).length =
      number / 10 ^ places := by
  rw [ofDigits_padded]
  cases places with
  | zero =>
      obtain rfl : number = 0 := by simpa using fits
      simp
  | succ fewer => rw [length_padded (Nat.succ_pos fewer) fits]

theorem magnitude_numeral (numeral : Numeral) :
    numeral.decimal.magnitude =
      ofDigits numeral.whole +
        ofDigits numeral.decimals / 10 ^ numeral.decimals.length := by
  simp only [magnitude, Numeral.decimal, ofDigits_append, zpow_neg, zpow_natCast]
  push_cast
  field_simp

theorem decimals_trimmed (negative : Bool) (places number : ℕ) :
    (trimmed negative places number).decimals = trimmedDigits places number := by
  simp only [Numeral.decimals, trimmed]
  split
  · rename_i nothing
    rw [nothing]
    rfl
  · rfl

theorem magnitude_trimmed (negative : Bool) (places number : ℕ) :
    (trimmed negative places number).decimal.magnitude = number / 10 ^ places := by
  have places10 : 0 < 10 ^ places := Nat.pow_pos (by decide)
  have split := Nat.div_add_mod number (10 ^ places)
  rw [magnitude_numeral, decimals_trimmed, trimmedDigits, fraction_trimEnd,
    fraction_padded (Nat.mod_lt number places10), trimmed, ofDigits_digits]
  generalize number / 10 ^ places = quotient at *
  generalize number % 10 ^ places = rest at *
  rw [← split]
  push_cast
  field_simp

/-- A numeral without needless zeros rounds as its decimal does. -/
theorem trimmed_number (negative : Bool) (places number : ℕ) :
    (trimmed negative places number).number =
      Binary64.ofDecimal ⟨negative, number, -(places : ℤ)⟩ := by
  rw [Numeral.number]
  apply Binary64.ofDecimal_congr
  · rfl
  rw [magnitude_trimmed, magnitude, zpow_neg, zpow_natCast, div_eq_mul_inv]

end Decimal

end Keypad
