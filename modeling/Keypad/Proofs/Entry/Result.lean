import Keypad.Proofs.Entry.WellKept
import Keypad.Proofs.Lexeme.Scan
import Keypad.Proofs.NumberFormat.Written

/-!
The entries that results leave.

A result starts with its sign or with a digit, has one point at most, and the
only other sign in it stands behind the letter of its exponent.

Owns: the well-kept shape of a result's text.

Main statement: `WellKept.of_format`.
-/

namespace Keypad

namespace Numeral

theorem isNumberKey_of_mem_body
    {written : Numeral}
    (wellFormed : written.WellFormed)
    {character : Char}
    (member : character ∈ written.body) :
    Entry.isNumberKey character = true := by
  rcases List.mem_append.mp member with inWhole | inFraction
  · exact Entry.isNumberKey_of_isDigit (wellFormed.wholeDigits character inWhole)
  · have decimals := wellFormed.decimalDigits character
    cases fraction : written.fraction with
    | none =>
        rw [fractionText, fraction] at inFraction
        contradiction
    | some behind =>
        rw [fractionText, fraction] at inFraction
        rw [Numeral.decimals, fraction, Option.getD_some] at decimals
        rcases List.mem_cons.mp inFraction with rfl | inDecimals
        · rfl
        · exact Entry.isNumberKey_of_isDigit (decimals inDecimals)

theorem isNumberKey_of_last
    {written : Numeral}
    {front : Text}
    {last : Char}
    (wellFormed : written.WellFormed)
    (ends : written.text = front ++ [last]) :
    Entry.isNumberKey last = true := by
  obtain ⟨first, rest, body, _⟩ := body_head wellFormed
  have isLast : written.text.getLast? = some last := by
    rw [ends, List.getLast?_concat]
  have sameLast : written.text.getLast? = written.body.getLast? := by
    rw [text, body]
    split
    · exact List.getLast?_cons_cons
    · rfl
  rw [sameLast] at isLast
  exact isNumberKey_of_mem_body wellFormed (List.mem_of_getLast? isLast)

theorem mem_text
    {written : Numeral}
    (wellFormed : written.WellFormed)
    {character : Char}
    (member : character ∈ written.text) :
    Entry.isNumberKey character = true ∨ character = '-' := by
  unfold text at member
  split at member
  · rcases List.mem_cons.mp member with sign | inBody
    · exact .inr sign
    · exact .inl (isNumberKey_of_mem_body wellFormed inBody)
  · exact .inl (isNumberKey_of_mem_body wellFormed member)

theorem isKey_of_mem_text
    {written : Numeral}
    (wellFormed : written.WellFormed)
    {character : Char}
    (member : character ∈ written.text) :
    Entry.isKey character = true := by
  rcases mem_text wellFormed member with number | rfl
  · rw [Entry.isKey, number]
    rfl
  · decide

private theorem count_point_body
    {written : Numeral}
    (wellFormed : written.WellFormed) :
    written.body.count '.' ≤ 1 := by
  have noPoint {digits : Text}
      (allDigits : ∀ character ∈ digits, character.isDigit = true) :
      digits.count '.' = 0 := by
    apply List.count_eq_zero.mpr
    intro member
    have impossible := allDigits '.' member
    contradiction
  have decimals := wellFormed.decimalDigits
  rw [body, List.count_append, noPoint wellFormed.wholeDigits, Nat.zero_add]
  cases fraction : written.fraction with
  | none =>
      rw [fractionText, fraction]
      exact Nat.zero_le 1
  | some behind =>
      rw [Numeral.decimals, fraction, Option.getD_some] at decimals
      rw [fractionText, fraction, List.count_cons_self, noPoint decimals]

private theorem count_point_text
    {written : Numeral}
    (wellFormed : written.WellFormed) :
    written.text.count '.' ≤ 1 := by
  have points := count_point_body wellFormed
  unfold text
  split
  · rw [List.count_cons_of_ne (by decide)]
    exact points
  · exact points

end Numeral

namespace Entry

private theorem isDigit_or_sign_of_mem_exponentText
    {width : Nat}
    {exponent : Int}
    {character : Char}
    (member : character ∈ Decimal.exponentText width exponent) :
    character.isDigit = true ∨ character = '-' ∨ character = '+' := by
  rcases List.mem_cons.mp member with sign | inDigits
  · by_cases negative : exponent < 0
    · rw [if_pos negative] at sign
      exact .inr (.inl sign)
    · rw [if_neg negative] at sign
      exact .inr (.inr sign)
  · exact .inl (Decimal.isDigit_of_mem_padded inDigits)

namespace WellKept

private theorem of_numeral
    {written : Numeral}
    (wellFormed : written.WellFormed) :
    WellKept written.text := by
  obtain ⟨first, rest, body, _⟩ := Numeral.body_head wellFormed
  have numberKeys : ∀ character ∈ first :: rest, isNumberKey character = true := by
    rw [← body]
    exact fun _ => Numeral.isNumberKey_of_mem_body wellFormed
  have neverClashes := fun character member =>
    neverClashes_of_isNumberKey (numberKeys character member)
  have starts : ∃ head tail, written.text = head :: tail ∧
      (isNumberKey head = true ∨ head = '-') ∧ ClashFree (head :: tail) := by
    rw [Numeral.text, body]
    by_cases negative : written.negative = true
    · rw [if_pos negative]
      exact ⟨'-', first :: rest, rfl, .inr rfl,
        clashFree_of_neverClashes '-' neverClashes⟩
    · rw [if_neg negative]
      refine ⟨first, rest, rfl, .inl (numberKeys first (by simp)), ?_⟩
      apply clashFree_of_neverClashes first
      intro character member
      exact neverClashes character (List.mem_cons_of_mem first member)
  obtain ⟨head, tail, isText, isStart, clashFree⟩ := starts
  exact {
    starts := ⟨head, tail, isText, isStart⟩
    characters := fun _ member => .inl (Numeral.isKey_of_mem_text wellFormed member)
    clashFree := isText ▸ clashFree
    singlePointed := singlePointed_of_count (Numeral.count_point_text wellFormed) }

/-- The sign of an exponent stands behind its letter, so nothing clashes. -/
theorem of_scientific
    {written : Numeral}
    (wellFormed : written.WellFormed)
    (exponent : Int) :
    WellKept (written.text ++ 'e' :: Decimal.exponentText 1 exponent) where
  starts := by
    obtain ⟨first, rest, split, starts⟩ := (of_numeral wellFormed).starts
    exact ⟨first, rest ++ 'e' :: Decimal.exponentText 1 exponent, by rw [split]; rfl,
      starts⟩
  characters := by
    intro character member
    rcases List.mem_append.mp member with inNumeral | inRest
    · exact .inl (Numeral.isKey_of_mem_text wellFormed inNumeral)
    · rcases List.mem_cons.mp inRest with letter | inExponent
      · exact .inr letter
      · rcases isDigit_or_sign_of_mem_exponentText inExponent with digit | rfl | rfl
        · exact .inl (by simp [isKey, isNumberKey, digit])
        · exact .inl (by decide)
        · exact .inl (by decide)
  clashFree := by
    have letterFits : NeverClashes 'e' := by
      intro before
      have notSymbol : Operator.isSymbol 'e' = false := by decide
      simp [clash, notSymbol]
    have signFits : clash 'e' (if exponent < 0 then '-' else '+') = false := by
      split <;> decide
    have power : ClashFree (Decimal.exponentText 1 exponent) := by
      apply clashFree_of_neverClashes
      intro character member
      apply neverClashes_of_isNumberKey
      exact isNumberKey_of_isDigit (Decimal.isDigit_of_mem_padded member)
    have mantissa := (of_numeral wellFormed).clashFree
    rw [clashFree_iff_isChain] at power mantissa ⊢
    rw [List.isChain_append]
    refine ⟨mantissa, .cons_cons signFits power, ?_⟩
    intro before _ after isLetter
    rw [List.head?_cons, Option.mem_some_iff] at isLetter
    rw [← isLetter]
    exact letterFits before
  singlePointed := by
    apply singlePointed_of_count
    have points := Numeral.count_point_text wellFormed
    have noPoint : '.' ∉ 'e' :: Decimal.exponentText 1 exponent := by
      intro member
      rcases List.mem_cons.mp member with letter | inExponent
      · contradiction
      · rcases isDigit_or_sign_of_mem_exponentText inExponent with digit | sign | sign
        · contradiction
        · contradiction
        · contradiction
    rw [List.count_append, List.count_eq_zero.mpr noPoint]
    exact points

/-- Only a result that is written with an exponent has its letter. -/
theorem isScientific_of_letter
    {precision : Int}
    {number : Binary64}
    {text : Text}
    (finite : number.isFinite = true)
    (written : NumberFormat.format precision number = .ok text)
    (letter : 'e' ∈ text) :
    NumberFormat.isScientific number = true := by
  obtain ⟨numeral, wellFormed, _, ⟨_, rfl⟩ | ⟨scientificNotation, _⟩⟩ :=
    NumberFormat.format_eq_ok finite written
  · have key : isKey 'e' = true := Numeral.isKey_of_mem_text wellFormed letter
    exact absurd key (by decide)
  · exact scientificNotation

/-- A result that is written with an exponent has its letter. -/
theorem letter_of_isScientific
    {precision : Int}
    {number : Binary64}
    {text : Text}
    (finite : number.isFinite = true)
    (written : NumberFormat.format precision number = .ok text)
    (scientificNotation : NumberFormat.isScientific number = true) :
    'e' ∈ text := by
  obtain ⟨numeral, _, _, ⟨positional, _⟩ | ⟨_, exponent, rfl⟩⟩ :=
    NumberFormat.format_eq_ok finite written
  · rw [positional] at scientificNotation
    exact absurd scientificNotation Bool.false_ne_true
  · simp

/-- A result holds number keys, signs and the letter of an exponent. -/
theorem mem_of_format
    {precision : Int}
    {number : Binary64}
    {text : Text}
    {character : Char}
    (finite : number.isFinite = true)
    (written : NumberFormat.format precision number = .ok text)
    (member : character ∈ text) :
    isNumberKey character = true ∨ character = '-' ∨ character = '+' ∨
      character = 'e' := by
  have inNumeral {numeral : Numeral} (wellFormed : numeral.WellFormed)
      (isMember : character ∈ numeral.text) :
      isNumberKey character = true ∨ character = '-' :=
    Numeral.mem_text wellFormed isMember
  obtain ⟨numeral, wellFormed, _, ⟨_, rfl⟩ | ⟨_, exponent, rfl⟩⟩ :=
    NumberFormat.format_eq_ok finite written
  · rcases inNumeral wellFormed member with number | sign
    · exact .inl number
    · exact .inr (.inl sign)
  · rcases List.mem_append.mp member with inMantissa | inRest
    · rcases inNumeral wellFormed inMantissa with number | sign
      · exact .inl number
      · exact .inr (.inl sign)
    · rcases List.mem_cons.mp inRest with letter | inExponent
      · exact .inr (.inr (.inr letter))
      · rcases isDigit_or_sign_of_mem_exponentText inExponent with digit | minus | plus
        · exact .inl (isNumberKey_of_isDigit digit)
        · exact .inr (.inl minus)
        · exact .inr (.inr (.inl plus))

/-- The text of every finite number is a well-kept entry. -/
theorem of_format
    {precision : Int}
    {number : Binary64}
    {text : Text}
    (finite : number.isFinite = true)
    (written : NumberFormat.format precision number = .ok text) :
    WellKept text := by
  obtain ⟨numeral, wellFormed, _, ⟨_, rfl⟩ | ⟨_, exponent, rfl⟩⟩ :=
    NumberFormat.format_eq_ok finite written
  · exact of_numeral wellFormed
  · exact of_scientific wellFormed exponent

end WellKept

end Entry

end Keypad
