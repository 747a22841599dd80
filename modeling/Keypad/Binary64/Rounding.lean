import Keypad.Binary64.Basic

/-!
Rounding an exact quotient to a binary64 number.

A quotient of naturals, measured in quanta, goes to the nearest representable
count; a tie goes to the count whose significand is even.  The spacing of the
grid at a quotient follows from the position of its leading bit.

Owns:
- rounding a quotient to an integer, ties to even;
- the spacing of representable counts, and rounding onto that grid;
- the number that a signed quotient rounds to, infinite beyond the range.

Main statements: `roundHalfEven_error` (within half a unit),
`even_of_roundHalfEven_tie` (even at half a unit),
`nearest_of_representable` (a representable count stays as it is).
-/

namespace Keypad

/-- The integer nearest to a quotient; of two nearest ones the even one. -/
def roundHalfEven (numerator denominator : Nat) : Nat :=
  let quotient := numerator / denominator
  let twiceRest := 2 * (numerator % denominator)
  if twiceRest < denominator then quotient
  else if denominator < twiceRest then quotient + 1
  else quotient + quotient % 2

theorem roundHalfEven_le (numerator denominator : Nat) :
    roundHalfEven numerator denominator ≤ numerator / denominator + 1 := by
  simp only [roundHalfEven]
  split
  · omega
  · split <;> omega

/-- A whole quotient is its own rounding. -/
theorem roundHalfEven_mul_left
    (whole : Nat)
    {denominator : Nat}
    (positive : 0 < denominator) :
    roundHalfEven (whole * denominator) denominator = whole := by
  simp [roundHalfEven, positive]

/-- The rounded quotient is off by at most half a unit. -/
theorem roundHalfEven_error
    (numerator : Nat)
    {denominator : Nat}
    (positive : 0 < denominator) :
    2 * (roundHalfEven numerator denominator * denominator) ≤
        2 * numerator + denominator ∧
      2 * numerator ≤
        2 * (roundHalfEven numerator denominator * denominator) +
          denominator := by
  have split := Nat.div_add_mod numerator denominator
  have rest := Nat.mod_lt numerator positive
  rw [Nat.mul_comm] at split
  simp only [roundHalfEven]
  split
  · omega
  · split
    · rw [Nat.add_mul]
      omega
    · rcases Nat.mod_two_eq_zero_or_one (numerator / denominator) with
        even | odd
      · rw [even, Nat.add_zero]
        omega
      · rw [odd, Nat.add_mul]
        omega

/-- A rounded quotient that is off by half a unit is even. -/
theorem even_of_roundHalfEven_tie
    (numerator : Nat)
    {denominator : Nat}
    (positive : 0 < denominator)
    (tie :
      2 * (roundHalfEven numerator denominator * denominator) =
          2 * numerator + denominator ∨
        2 * numerator =
          2 * (roundHalfEven numerator denominator * denominator) +
            denominator) :
    roundHalfEven numerator denominator % 2 = 0 := by
  have split := Nat.div_add_mod numerator denominator
  have rest := Nat.mod_lt numerator positive
  rw [Nat.mul_comm] at split
  simp only [roundHalfEven] at tie ⊢
  split at tie
  · omega
  · split at tie
    · rw [Nat.add_mul] at tie
      omega
    · rename_i notBelow notAbove
      rw [if_neg notBelow, if_neg notAbove]
      omega

namespace Binary64

/-- Representable counts near `size` quanta are multiples of 2 to this power:
53 bits are kept, and no multiple is finer than a quantum. -/
def spacingShift (size : Nat) : Nat :=
  size.log2 - 52

/-- The count of quanta nearest to a quotient on the grid of 53 significant
bits; the range is not limited here. -/
def nearest (numerator denominator : Nat) : Nat :=
  let shift := spacingShift (numerator / denominator)
  roundHalfEven numerator (denominator * 2 ^ shift) * 2 ^ shift

/-- The leading 53 bits of a count are a significand. -/
theorem div_spacing_lt_significandBound (size : Nat) :
    size / 2 ^ spacingShift size < significandBound := by
  rw [Nat.div_lt_iff_lt_mul (Nat.two_pow_pos _), significandBound,
    spacingShift, ← Nat.pow_add]
  calc
    size < 2 ^ (size.log2 + 1) := Nat.lt_log2_self
    _ ≤ 2 ^ (53 + (size.log2 - 52)) :=
      Nat.pow_le_pow_right Nat.two_pos (by omega)

/-- A rounded count has a significand of 53 bits, also when rounding up carries
into one more bit. -/
theorem nearest_significant (numerator denominator : Nat) :
    ∃ significand shift,
      significand < significandBound ∧
        nearest numerator denominator = significand * 2 ^ shift := by
  have upper := roundHalfEven_le numerator
    (denominator * 2 ^ spacingShift (numerator / denominator))
  have kept := div_spacing_lt_significandBound (numerator / denominator)
  rw [← Nat.div_div_eq_div_mul] at upper
  simp only [nearest]
  generalize roundHalfEven numerator _ = rounded at *
  by_cases below : rounded < significandBound
  · exact ⟨rounded, _, below, rfl⟩
  · have carried : rounded = significandBound := by omega
    refine ⟨1, 53 + spacingShift (numerator / denominator), by decide, ?_⟩
    rw [carried, significandBound, Nat.pow_add, Nat.one_mul]

/-- The number nearest to a signed quotient of quanta. -/
def round (negative : Bool) (numerator denominator : Nat) : Binary64 :=
  if inRange : nearest numerator denominator < overflowBound then
    .finite negative (nearest numerator denominator)
      ⟨inRange, nearest_significant numerator denominator⟩
  else
    .infinite negative

/-- A count with 53 significant bits is a multiple of its spacing. -/
theorem spacing_dvd
    {significand shift : Nat}
    (bounded : significand < significandBound) :
    2 ^ spacingShift (significand * 2 ^ shift) ∣ significand * 2 ^ shift := by
  by_cases zero : significand = 0
  · simp [zero]
  · apply Nat.dvd_mul_left_of_dvd
    apply Nat.pow_dvd_pow
    have product : significand * 2 ^ shift ≠ 0 :=
      Nat.mul_ne_zero zero (Nat.ne_of_gt (Nat.two_pow_pos _))
    have below : significand * 2 ^ shift < 2 ^ (53 + shift) := by
      rw [Nat.pow_add]
      exact Nat.mul_lt_mul_of_pos_right bounded (Nat.two_pow_pos _)
    have leading := (Nat.log2_lt product).mpr below
    unfold spacingShift
    omega

/-- A representable count is its own nearest representable count. -/
theorem nearest_of_representable
    {quanta : Nat}
    (representable : Representable quanta) :
    nearest quanta 1 = quanta := by
  have onGrid : 2 ^ spacingShift quanta ∣ quanta := by
    obtain ⟨significand, shift, bounded, rfl⟩ := representable.significant
    exact spacing_dvd bounded
  have positive : 0 < 2 ^ spacingShift quanta := Nat.two_pow_pos _
  simp only [nearest, Nat.div_one, Nat.one_mul]
  generalize 2 ^ spacingShift quanta = spacing at *
  obtain ⟨factor, rfl⟩ := onGrid
  rw [Nat.mul_comm spacing factor, roundHalfEven_mul_left factor positive]

/-- Rounding a number of the format gives that number. -/
theorem round_of_representable
    (negative : Bool)
    {quanta : Nat}
    (representable : Representable quanta) :
    round negative quanta 1 = .finite negative quanta representable := by
  simp [round, nearest_of_representable representable, representable.inRange]

@[simp] theorem round_zero (negative : Bool) (denominator : Nat) :
    round negative 0 denominator = signedZero negative := by
  have untouched : nearest 0 denominator = 0 := by
    simp [nearest, roundHalfEven]
  simp [round, untouched, overflowBound_pos, signedZero]

end Binary64

end Keypad
