import Keypad.Proofs.Computation
import Keypad.Proofs.Decimal.Value
import Keypad.Proofs.Entry.Typeable

/-!
What typing does to a number at the start.

A number key takes the place of the zero of an empty keypad, so zeros at the
start of a number do not last.  Its value does not need them.  But a point takes
the zero's place as well, and a point alone is no number.

Owns:
- the number that is left when its leading zeros vanish;
- entries that start with a point alone, and why they have no result.

Main statements: `normalForm_numeral`, `compute_of_barePoint`.
-/

namespace Keypad

namespace Numeral

/-- The numeral as typing leaves it on an empty keypad: without the zeros in
front, but for one where nothing else would be left. -/
def withoutZeros (written : Numeral) : Numeral :=
  let rest := written.whole.dropWhile (· = '0')
  { written with
    whole := if rest = [] ∧ written.fraction = none then ['0'] else rest }

variable {written : Numeral}

private theorem ofDigits_withoutZeros (written : Numeral) :
    Decimal.ofDigits written.withoutZeros.whole = Decimal.ofDigits written.whole := by
  rw [← Decimal.ofDigits_dropWhile_zeros written.whole, withoutZeros]
  by_cases nothing : written.whole.dropWhile (· = '0') = [] ∧ written.fraction = none
  · rw [if_pos nothing, nothing.1]
    rfl
  · rw [if_neg nothing]

/-- Zeros in front of a number do not count. -/
theorem number_withoutZeros (written : Numeral) :
    written.withoutZeros.number = written.number := by
  have decimals : written.withoutZeros.decimals = written.decimals := rfl
  rw [number, number, decimal, decimal, decimals, Decimal.ofDigits_append,
    Decimal.ofDigits_append, ofDigits_withoutZeros]
  rfl

private theorem WellFormed.withoutZeros
    (wellFormed : written.WellFormed)
    (hasDigit : written.withoutZeros.HasDigit) :
    written.withoutZeros.WellFormed where
  wholeDigits := by
    intro character member
    simp only [Numeral.withoutZeros] at member
    split at member
    · rw [List.mem_singleton.mp member]
      rfl
    · exact wellFormed.wholeDigits character (List.dropWhile_subset _ member)
  decimalDigits := wellFormed.decimalDigits
  hasDigit := hasDigit

/-- Only a point is left of a number without any other digit than the zeros in
front of it. -/
theorem text_of_not_hasDigit
    (positive : written.negative = false)
    (noDigit : ¬ written.withoutZeros.HasDigit) :
    written.withoutZeros.text = ['.'] := by
  rw [HasDigit, not_or, not_not, not_not] at noDigit
  obtain ⟨noWhole, noDecimals⟩ := noDigit
  cases fraction : written.fraction with
  | none =>
      simp only [withoutZeros, fraction, and_true] at noWhole
      split at noWhole <;> contradiction
  | some behind =>
      have nothing : behind = [] := by
        simpa [decimals, withoutZeros, fraction] using noDecimals
      have sign : written.withoutZeros.negative = false := positive
      have fractionText : written.withoutZeros.fractionText = ['.'] := by
        simp [Numeral.fractionText, withoutZeros, fraction, nothing]
      rw [text, sign, if_neg Bool.false_ne_true, body, noWhole, fractionText]
      rfl

end Numeral

namespace Lexeme

/-- What may follow a numeral depends on nothing but whether it has a point. -/
theorem AdmissibleAfter.of_numeral
    {first other : Numeral}
    {later : List Lexeme}
    (admissible : AdmissibleAfter (some (.numeral first)) later)
    (points : other.fraction = first.fraction) :
    AdmissibleAfter (some (.numeral other)) later := by
  cases later with
  | nil => trivial
  | cons lexeme later =>
      refine ⟨?_, admissible.2⟩
      cases lexeme with
      | numeral written =>
          obtain ⟨wellFormed, sign, pointed, noWhole⟩ := admissible.1
          exact ⟨wellFormed, sign, points ▸ pointed, noWhole⟩
      | operator op => exact admissible.1
      | opening => trivial
      | closing => trivial

theorem Admissible.withoutZeros
    {written : Numeral}
    {later : List Lexeme}
    (admissible : Admissible (.numeral written :: later))
    (hasDigit : written.withoutZeros.HasDigit) :
    Admissible (.numeral written.withoutZeros :: later) :=
  ⟨⟨admissible.1.1.withoutZeros hasDigit, fun _ => rfl, trivial⟩,
    admissible.2.of_numeral rfl⟩

end Lexeme

namespace Entry

private theorem normalForm_of_number
    {typed rest : Text}
    {first : Char}
    (dropped : typed.dropWhile (· = '0') = first :: rest)
    (number : isNumberKey first = true) :
    normalForm typed = first :: rest := by
  simp [normalForm, dropped, number]

/-- A zero comes back in front of what is no number. -/
theorem normalForm_of_not_number
    {zeros rest : Text}
    (allZero : zeros.dropWhile (· = '0') = [])
    (notNumber : ∀ first, rest.head? = some first → isNumberKey first = false) :
    normalForm (zeros ++ rest) = '0' :: rest := by
  have dropped : (zeros ++ rest).dropWhile (· = '0') = rest := by
    rw [List.dropWhile_append, allZero]
    cases rest with
    | nil => rfl
    | cons next after =>
        have notZero : next ≠ '0' := by
          rintro rfl
          exact absurd (notNumber '0' rfl) (by decide)
        simp [notZero]
  have never : rest.head?.any isNumberKey = false := by
    cases head : rest.head? with
    | none => rfl
    | some first => exact notNumber first head
  simp [normalForm, dropped, never]

theorem normalForm_cons_of_not_number
    {first : Char}
    (rest : Text)
    (notNumber : isNumberKey first = false) :
    normalForm (first :: rest) = '0' :: first :: rest := by
  have noZeros : ([] : Text).dropWhile (· = '0') = [] := rfl
  apply normalForm_of_not_number noZeros
  intro character head
  rw [← Option.some.inj head]
  exact notNumber

/-- A number at the start of typed keys loses the zeros in front of it. -/
theorem normalForm_numeral
    {written : Numeral}
    {behind : Text}
    (wellFormed : written.WellFormed)
    (positive : written.negative = false)
    (ends : written.EndsAt behind) :
    normalForm (written.text ++ behind) = written.withoutZeros.text ++ behind := by
  have sign : written.withoutZeros.negative = false := positive
  have fractionText : written.withoutZeros.fractionText = written.fractionText := rfl
  rw [Numeral.text, positive, if_neg Bool.false_ne_true, Numeral.text, sign,
    if_neg Bool.false_ne_true, Numeral.body, Numeral.body, fractionText,
    List.append_assoc, List.append_assoc]
  cases kept : written.whole.dropWhile (· = '0') with
  | cons first rest =>
      have inWhole : first ∈ written.whole := by
        apply List.dropWhile_subset (· = '0')
        simp [kept]
      have whole : written.withoutZeros.whole = first :: rest := by
        simp [Numeral.withoutZeros, kept]
      rw [whole]
      exact normalForm_of_number (by simp [List.dropWhile_append, kept])
        (isNumberKey_of_isDigit (wellFormed.wholeDigits first inWhole))
  | nil =>
      cases fraction : written.fraction with
      | some decimals =>
          have whole : written.withoutZeros.whole = [] := by
            simp [Numeral.withoutZeros, kept, fraction]
          rw [whole, Numeral.fractionText, fraction]
          exact normalForm_of_number (by simp [List.dropWhile_append, kept]) (by decide)
      | none =>
          have notNumber : ∀ first, behind.head? = some first → isNumberKey first = false := by
            intro first head
            obtain ⟨notDigit, notPoint⟩ := ends first head
            simp [isNumberKey, notDigit, notPoint fraction]
          have whole : written.withoutZeros.whole = ['0'] := by
            simp [Numeral.withoutZeros, kept, fraction]
          rw [whole, Numeral.fractionText, fraction]
          exact normalForm_of_not_number kept notNumber

/-- The entry starts with a point that no digit follows. -/
def BarePoint (entry : Text) : Prop :=
  ∃ rest, entry = '.' :: rest ∧
    ∀ next, rest.head? = some next → next.isDigit = false

/-- An entry that starts with a point alone is read no further. -/
theorem compute_of_barePoint
    {entry : Text}
    (kept : WellKept entry)
    (barePoint : BarePoint entry) :
    compute entry = .error (.invalidNumber ['.'] 0) := by
  obtain ⟨rest, rfl, stops⟩ := barePoint
  have none : ∀ character ∈ ([] : Text), character.isDigit = true := by simp
  have noDigits : rest.takeWhile Char.isDigit = [] ∧ rest.dropWhile Char.isDigit = rest :=
    Numeral.takeWhile_isDigit_append none stops
  have found : Lexeme.numeral? true ('.' :: rest) = some (⟨false, [], some []⟩, rest) := by
    have notDigit : Char.isDigit '.' = false := rfl
    simp [Lexeme.numeral?, Numeral.scan, notDigit, noDigits]
  have read : Token.ofText ('.' :: rest) = .error (.invalidNumber ['.'] 0) := by
    rw [Token.ofText_eq_error_iff, Lexeme.ofText, kept.squeeze_plain,
      Lexeme.scan_of_numeral 0 found]
    rfl
  rw [compute, read]
  rfl

end Entry

end Keypad
