import Keypad.Decimal.Numeral
import Keypad.NumberFormat
import Keypad.Proofs.Outcome
import Mathlib.Data.List.Basic
import Mathlib.Data.List.TakeWhile

/-!
Results as numerals.

A finite number is written as a numeral, and as a numeral with an exponent behind
it where its magnitude asks for one.

Owns:
- the numeral of a count of decimal steps, its fraction without needless zeros;
- the two notations in terms of that numeral.

Does not own: how well the numeral approximates the number.

Main statement: `format_eq_ok`.
-/

namespace Keypad

namespace Text

private theorem mem_of_mem_trimEnd
    {drops : Char → Bool}
    {text : Text}
    {character : Char}
    (member : character ∈ trimEnd drops text) :
    character ∈ text := by
  obtain ⟨trimmed, whole, _⟩ := trimEnd_append drops text
  rw [← whole]
  exact List.mem_append_left trimmed member

/-- What is left ends in a character that is not dropped. -/
theorem getLast?_trimEnd
    {drops : Char → Bool}
    {text : Text}
    {last : Char}
    (ends : (trimEnd drops text).getLast? = some last) :
    drops last = false := by
  rw [trimEnd, List.getLast?_reverse] at ends
  have kept := List.head?_dropWhile_not drops text.reverse
  rw [ends] at kept
  exact kept

/-- Trimming does not go past a character that it keeps. -/
theorem trimEnd_append_cons
    {drops : Char → Bool}
    {kept : Char}
    (keeps : drops kept = false)
    (front back : Text) :
    trimEnd drops (front ++ kept :: back) =
      front ++ kept :: trimEnd drops back := by
  unfold trimEnd
  rw [List.reverse_append, List.reverse_cons, List.append_assoc,
    List.dropWhile_append]
  split
  · rename_i dropped
    rw [List.isEmpty_iff.mp dropped]
    simp [keeps]
  · simp

private theorem trimEnd_concat_of_drops
    {drops : Char → Bool}
    {last : Char}
    (front : Text)
    (isDropped : drops last = true) :
    trimEnd drops (front ++ [last]) = trimEnd drops front := by
  simp [trimEnd, isDropped]

/-- A text that ends in characters of another class is not trimmed. -/
theorem trimEnd_append_of_keeps
    {drops : Char → Bool}
    {back : Text}
    (front : Text)
    (nonempty : back ≠ [])
    (keeps : ∀ character ∈ back, drops character = false) :
    trimEnd drops (front ++ back) = front ++ back := by
  obtain ⟨before, last, rfl⟩ := (List.eq_nil_or_concat' back).resolve_left nonempty
  rw [← List.append_assoc]
  exact trimEnd_concat (front ++ before) (keeps last (by simp))

end Text

namespace Decimal

def trimmedDigits (places number : Nat) : Text :=
  Text.trimEnd (· = '0') (padded places (number % 10 ^ places))

/-- A number with that many of its digits behind the point, without needless
zeros and without a needless point. -/
def trimmed (negative : Bool) (places number : Nat) : Numeral where
  negative := negative
  whole := digits (number / 10 ^ places)
  fraction :=
    if trimmedDigits places number = [] then none
    else some (trimmedDigits places number)

@[simp] theorem trimmed_negative (negative : Bool) (places number : Nat) :
    (trimmed negative places number).negative = negative :=
  rfl

private theorem isDigit_of_mem_trimmedDigits
    {places number : Nat}
    {character : Char}
    (member : character ∈ trimmedDigits places number) :
    character.isDigit = true :=
  isDigit_of_mem_padded (Text.mem_of_mem_trimEnd member)

theorem trimmed_wellFormed (negative : Bool) (places number : Nat) :
    (trimmed negative places number).WellFormed where
  wholeDigits := fun _ => isDigit_of_mem_digits
  decimalDigits := by
    intro character member
    simp only [Numeral.decimals, trimmed] at member
    split at member
    · contradiction
    · exact isDigit_of_mem_trimmedDigits member
  hasDigit := .inl (digits_ne_nil _)

theorem trimmedDigits_no_places (number : ℕ) : trimmedDigits 0 number = [] := by
  rw [trimmedDigits, Nat.pow_zero, Nat.mod_one]
  decide

private theorem trimmedDigits_zero (places : Nat) : trimmedDigits places 0 = [] := by
  have zeros : ∀ character ∈ padded places 0, character = '0' := by
    intro character member
    simp only [padded, List.leftpad, List.mem_append, List.mem_replicate] at member
    rcases member with ⟨_, isZero⟩ | inDigits
    · exact isZero
    · exact List.mem_singleton.mp inDigits
  rw [trimmedDigits, Nat.zero_mod, Text.trimEnd, List.reverse_eq_nil_iff,
    List.dropWhile_eq_nil_iff]
  intro character member
  simpa using zeros character (List.mem_reverse.mp member)

theorem body_trimmed_zero (negative : Bool) (places : Nat) :
    (trimmed negative places 0).body = ['0'] := by
  rw [Numeral.body, Numeral.fractionText, trimmed, trimmedDigits_zero, Nat.zero_div]
  rfl

private theorem ne_point_of_isDigit
    {character : Char}
    (digit : character.isDigit = true) :
    character ≠ '.' := by
  rintro rfl
  contradiction

/-- Without places nothing is trimmed, so that zeros in front of the absent point
stay; with places the zeros end at the point at the latest. -/
theorem trimFraction_pointed (negative : Bool) (places number : Nat) :
    trimFraction (pointed places number) = (trimmed negative places number).body := by
  unfold trimFraction pointed Numeral.body Numeral.fractionText trimmed
  by_cases unpointed : places = 0
  · have noPoint : '.' ∉ digits (number / 10 ^ places) ++ [] := by
      intro member
      rw [List.append_nil] at member
      exact ne_point_of_isDigit (isDigit_of_mem_digits member) rfl
    rw [if_pos unpointed, if_neg noPoint, unpointed, trimmedDigits_no_places]
    rfl
  · rw [if_neg unpointed, if_pos (by simp), Text.trimEnd_append_cons (by decide)]
    change Text.trimEnd (· = '.')
      (digits (number / 10 ^ places) ++ '.' :: trimmedDigits places number) = _
    by_cases nothing : trimmedDigits places number = []
    · have digitsStay : Text.trimEnd (· = '.') (digits (number / 10 ^ places)) =
          digits (number / 10 ^ places) := by
        apply Text.trimEnd_append_of_keeps [] (digits_ne_nil _)
        intro character member
        simpa using ne_point_of_isDigit (isDigit_of_mem_digits member)
      rw [nothing, Text.trimEnd_concat_of_drops _ (by decide), digitsStay]
      simp
    · rw [if_neg nothing, List.append_cons, Text.trimEnd_append_of_keeps _ nothing]
      intro character member
      simpa using ne_point_of_isDigit (isDigit_of_mem_trimmedDigits member)

end Decimal

namespace NumberFormat

/-- The numeral of a positional notation; zero has no sign. -/
def positionalNumeral (places : Nat) (negative : Bool) (quanta : Nat) : Numeral :=
  let coefficient := (Binary64.toPlaces places negative quanta).coefficient
  let signed :=
    negative && (Decimal.trimmed negative places coefficient).body ≠ ['0']
  Decimal.trimmed signed places coefficient

def mantissaNumeral (negative : Bool) (quanta : Nat) : Numeral :=
  Decimal.trimmed negative mantissaPlaces
    (Binary64.toSignificant mantissaPlaces negative quanta).coefficient

def scientificExponent (negative : Bool) (quanta : Nat) : Int :=
  (Binary64.toSignificant mantissaPlaces negative quanta).exponent + mantissaPlaces

theorem positional_eq (places : Nat) (negative : Bool) (quanta : Nat) :
    positional places negative quanta =
      (positionalNumeral places negative quanta).text := by
  simp only [positional, positionalNumeral, signedText, Numeral.text,
    Decimal.trimFraction_pointed negative, Decimal.trimmed_negative,
    Bool.and_eq_true, decide_eq_true_eq]
  rfl

theorem scientific_eq (negative : Bool) (quanta : Nat) :
    scientific negative quanta =
      (mantissaNumeral negative quanta).text ++
        'e' :: Decimal.exponentText 1 (scientificExponent negative quanta) := by
  have notZero (mantissa power : Text) : mantissa ++ 'e' :: power ≠ ['0'] := by
    intro same
    have letter : 'e' ∈ mantissa ++ 'e' :: power := by simp
    rw [same] at letter
    contradiction
  simp only [scientific, mantissaNumeral, scientificExponent, signedText,
    Numeral.text, Decimal.trimFraction_pointed negative, Decimal.trimmed_negative,
    notZero, ne_eq, not_false_eq_true, and_true]
  cases negative <;> rfl

theorem format_eq_ok
    {precision : Int}
    {number : Binary64}
    {text : Text}
    (finite : number.isFinite = true)
    (written : format precision number = .ok text) :
    ∃ numeral : Numeral, numeral.WellFormed ∧ numeral.whole ≠ [] ∧
      ((isScientific number = false ∧ text = numeral.text) ∨
        (isScientific number = true ∧ ∃ exponent,
          text = numeral.text ++ 'e' :: Decimal.exponentText 1 exponent)) := by
  obtain ⟨negative, quanta, representable, rfl⟩ := Binary64.exists_of_isFinite finite
  rw [format] at written
  split at written
  · rename_i scientificNotation
    refine ⟨mantissaNumeral negative quanta, Decimal.trimmed_wellFormed _ _ _,
      Decimal.digits_ne_nil _, .inr ⟨scientificNotation,
      scientificExponent negative quanta, ?_⟩⟩
    rw [← scientific_eq]
    exact (Except.ok.inj written).symm
  · rename_i positionalNotation
    obtain ⟨places, _, answered⟩ := ok_of_bind written
    refine ⟨positionalNumeral places negative quanta,
      Decimal.trimmed_wellFormed _ _ _, Decimal.digits_ne_nil _,
      .inl ⟨by simpa using positionalNotation, ?_⟩⟩
    rw [← positional_eq]
    exact (Except.ok.inj answered).symm

end NumberFormat

end Keypad
