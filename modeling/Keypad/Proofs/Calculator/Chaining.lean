import Keypad.Proofs.Calculator.Agreement
import Keypad.Proofs.Calculator.Keystrokes
import Keypad.Proofs.Composition
import Keypad.Proofs.Entry.Result

/-!
Going on with a result.

A result without an exponent is an entry like any other: an operator and digits
that are typed behind it are kept, and the entry means what it says.  The result
zero is the exception.  It cannot be told from an empty keypad, which takes no
operator but the minus and gives way to the first digit; for an addition that
makes no difference, and otherwise the digits alone are left.

Owns:
- the results of digits, alone and added to a zero;
- the entry behind a result, and what finalizing it shows.

Main statement: `finalize_chained`.
-/

namespace Keypad

/-! ## Results of digits -/

private theorem computeTokens_add (left right : Binary64) :
    computeTokens [.number left, .operator .add, .number right] =
      reportValue (left.add right) :=
  rfl

section Digits

variable {digits : Text}
variable (nonempty : digits ≠ [])
variable (allDigits : ∀ character ∈ digits, character.isDigit = true)
include nonempty allDigits

private theorem Numeral.wellFormed_of_digits :
    (⟨false, digits, none⟩ : Numeral).WellFormed where
  wholeDigits := allDigits
  decimalDigits := by
    intro character member
    contradiction
  hasDigit := .inl nonempty

private theorem compute_digits :
    compute digits = reportValue (Numeral.number ⟨false, digits, none⟩) := by
  have isText : Numeral.text ⟨false, digits, none⟩ = digits := by
    simp [Numeral.text, Numeral.body, Numeral.fractionText]
  have wellFormed := Numeral.wellFormed_of_digits nonempty allDigits
  rw [← compute_numeral wellFormed, isText]

/-- Adding digits to a zero is reading the digits. -/
private theorem compute_zero_plus_digits :
    compute ('0' :: '+' :: digits) = compute digits := by
  let written : Numeral := ⟨false, digits, none⟩
  have wellFormed : written.WellFormed :=
    Numeral.wellFormed_of_digits nonempty allDigits
  let lexemes : List Lexeme := [.numeral .zero, .operator .add, .numeral written]
  have admissible : Lexeme.Admissible lexemes :=
    ⟨⟨Numeral.wellFormed_zero, fun _ => rfl, trivial⟩, by simp [Lexeme.MayFollow],
      ⟨wellFormed, by simp [written], trivial⟩, trivial⟩
  have spelling : Lexeme.spelling lexemes = '0' :: '+' :: digits := by
    simp [lexemes, Numeral.zero, written, Lexeme.text, Numeral.text, Numeral.body,
      Numeral.fractionText, Operator.symbol]
  have computed := compute_spelling admissible
  rw [spelling] at computed
  calc
    compute ('0' :: '+' :: digits) =
        reportValue (Numeral.zero.number.add written.number) :=
      computed.trans (computeTokens_add Numeral.zero.number written.number)
    _ = reportValue written.number.unsignZero := by
        rw [← reportValue_unsignZero, Numeral.number_zero, Binary64.zero,
          Binary64.unsignZero_signedZero_add]
    _ = compute digits := by
        rw [reportValue_unsignZero, compute_digits nonempty allDigits]

end Digits

/-- Typed on an empty keypad, digits lose leading zeros at most. -/
theorem Entry.normalForm_digits
    {digits : Text}
    (allDigits : ∀ character ∈ digits, character.isDigit = true) :
    (∀ character ∈ normalForm digits, character.isDigit = true) ∧
      Decimal.ofDigits (normalForm digits) = Decimal.ofDigits digits := by
  have sameNumber := Decimal.ofDigits_dropWhile_zeros digits
  have digitsLeft : ∀ character ∈ digits.dropWhile (· = '0'),
      character.isDigit = true := by
    intro character member
    exact allDigits character (List.dropWhile_subset _ member)
  unfold normalForm
  cases kept : digits.dropWhile (· = '0') with
  | nil =>
      rw [kept] at sameNumber
      rw [← sameNumber]
      exact ⟨List.all_eq_true.mp rfl, rfl⟩
  | cons first rest =>
      rw [kept] at sameNumber digitsLeft
      have number := isNumberKey_of_isDigit (digitsLeft first (by simp))
      simp only [List.head?_cons, Option.any_some, number, ↓reduceIte]
      exact ⟨digitsLeft, sameNumber⟩

private theorem compute_normalForm_digits
    {digits : Text}
    (nonempty : digits ≠ [])
    (allDigits : ∀ character ∈ digits, character.isDigit = true) :
    compute (Entry.normalForm digits) = compute digits := by
  obtain ⟨allLeft, sameNumber⟩ := Entry.normalForm_digits allDigits
  have sameDecimal : Numeral.decimal ⟨false, Entry.normalForm digits, none⟩ =
      Numeral.decimal ⟨false, digits, none⟩ := by
    simp [Numeral.decimal, Numeral.decimals, sameNumber]
  rw [compute_digits (Entry.normalForm_ne_nil digits) allLeft,
    compute_digits nonempty allDigits, Numeral.number, Numeral.number, sameDecimal]

/-- Typing on behind a zero and typing on an empty keypad mean the same for an
addition; other operators that the empty keypad refuses leave the digits alone. -/
private theorem compute_typed_on
    {digits : Text}
    (nonempty : digits ≠ [])
    (allDigits : ∀ character ∈ digits, character.isDigit = true)
    (text : Text)
    (op : Operator) :
    compute
        (if text = Entry.initial ∧ op ≠ .sub then Entry.normalForm digits
        else text ++ op.symbol :: digits) =
      compute
        (if text = Entry.initial ∧ (op = .mul ∨ op = .div ∨ op = .rem) then digits
        else text ++ op.symbol :: digits) := by
  have emptied := compute_normalForm_digits nonempty allDigits
  by_cases zero : text = Entry.initial
  · cases op with
    | add =>
        rw [if_pos ⟨zero, by decide⟩, if_neg (by simp), zero, emptied]
        exact (compute_zero_plus_digits nonempty allDigits).symm
    | sub => rw [if_neg (by simp), if_neg (by simp)]
    | mul => rw [if_pos ⟨zero, by decide⟩, if_pos ⟨zero, by simp⟩, emptied]
    | div => rw [if_pos ⟨zero, by decide⟩, if_pos ⟨zero, by simp⟩, emptied]
    | rem => rw [if_pos ⟨zero, by decide⟩, if_pos ⟨zero, by simp⟩, emptied]
  · rw [if_neg fun both => zero both.1, if_neg fun both => zero both.1]

namespace Calculator

/-! ## Going on -/

/-- An operator and digits behind a number become part of the entry, unless the
number is the zero of an empty keypad: that refuses all operators but the minus,
and the digits take its place. -/
private theorem afterAll_operator_digits
    {calculator : Calculator}
    {last : Char}
    {digits : Text}
    (visible : Text.lastVisible? calculator.entry = some last)
    (number : Entry.isNumberKey last = true)
    (allDigits : ∀ character ∈ digits, character.isDigit = true)
    (op : Operator) :
    (calculator.afterAll (Operation.keystrokes (op.symbol :: digits))).entry =
        (if calculator.entry = Entry.initial ∧ op ≠ .sub then
          Entry.normalForm digits
        else calculator.entry ++ op.symbol :: digits) ∧
      (calculator.afterAll (Operation.keystrokes (op.symbol :: digits))).precision =
        calculator.precision := by
  have admitted := Entry.admits_symbol_iff visible number op
  split
  · rename_i emptied
    have refused : Entry.admits calculator.entry op.symbol = false := by
      rw [← Bool.not_eq_true, admitted]
      simp [emptied]
    have typing : Entry.type? calculator.entry digits =
        some (Entry.normalForm digits) := by
      rw [emptied.1, Entry.type?_digits _ allDigits, ← Entry.normalForm_nil,
        Entry.foldl_append_normalForm, List.nil_append]
    rw [afterAll_refused_keystroke (by simp [Entry.isKey]) refused]
    exact afterAll_keystrokes typing
  · rename_i kept
    have admits : Entry.admits calculator.entry op.symbol = true := by
      by_contra refused
      rw [admitted, not_or, ne_eq, not_not] at refused
      exact kept refused
    exact afterAll_keystrokes (Entry.type?_operator_digits admits allDigits)

/-- Typing an operator and digits behind a result without an exponent and
finalizing again shows what the result, the operator and the digits mean.  The
zero is taken for an empty keypad: multiplied, divided or asked for a remainder,
it gives way to the digits. -/
theorem finalize_chained
    {calculator : Calculator}
    {text digits : Text}
    (finalized : calculator.finalize.Shows (.number text))
    (noExponent : 'e' ∉ text)
    (nonempty : digits ≠ [])
    (allDigits : ∀ character ∈ digits, character.isDigit = true)
    (op : Operator) :
    let chained := calculator.finalize.calculator.afterAll
      (Operation.keystrokes (op.symbol :: digits))
    let meant :=
      if text = Entry.initial ∧ (op = .mul ∨ op = .div ∨ op = .rem) then digits
      else text ++ op.symbol :: digits
    (∀ value, compute meant = .ok value →
        ∃ shown, NumberFormat.format calculator.precision value = .ok shown ∧
          chained.finalize.Shows (.number shown)) ∧
      ∀ fault, compute meant = .error fault →
        chained.finalize.Shows .error := by
  intro chained meant
  obtain ⟨value, computed, written⟩ :=
    (finalize_shows_number_iff calculator text).mp finalized
  have isEntry := (shows_number_of_ok computed written).2.2
  have finite := isFinite_of_compute computed
  have kept := Entry.WellKept.of_format finite written
  obtain ⟨numeral, wellFormed, _, ⟨positional, isNumeral⟩ | ⟨_, exponent, scientific⟩⟩ :=
    NumberFormat.format_eq_ok finite written
  · have usable := usable_of_positional finite positional written
    obtain ⟨front, last, ends, visible⟩ := kept.last
    have number := Numeral.isNumberKey_of_last wellFormed (isNumeral.symm.trans ends)
    rw [← isEntry] at visible
    obtain ⟨entry, precision⟩ := afterAll_operator_digits visible number allDigits op
    rw [finalize_precision] at precision
    have sameResult : compute chained.entry = compute meant := by
      rw [entry, isEntry]
      exact compute_typed_on nonempty allDigits text op
    have samePrecision : chained.precision = calculator.precision := precision
    rw [← sameResult, ← samePrecision]
    rw [← samePrecision] at usable
    exact finalize_shows_of_usable usable
  · rw [scientific] at noExponent
    exact absurd (by simp) noExponent

/-- A negative result that is multiplied by digits with a leading zero. -/
theorem finalize_chained_negative :
    let calculator := (new 12 none).afterAll [.press "5-8".toList]
    let chained := calculator.finalize.calculator.afterAll
      (Operation.keystrokes "*02".toList)
    calculator.finalize.Shows (.number "-3".toList) ∧
      'e' ∉ "-3".toList ∧
      (∀ character ∈ "02".toList, character.isDigit = true) ∧
      compute "-3*02".toList = .ok (Numeral.number ⟨true, ['6'], none⟩) ∧
      chained.finalize.Shows (.number "-6".toList) := by
  intro calculator chained
  have finalized : calculator.finalize.Shows (.number "-3".toList) := by
    constructor
    · exact eq_ok_of_toOption (by decide +kernel)
    · decide +kernel
  have noExponent : 'e' ∉ "-3".toList := by decide
  have allDigits : ∀ character ∈ "02".toList, character.isDigit = true :=
    List.all_eq_true.mp (by decide +kernel)
  have computed : compute "-3*02".toList =
      .ok (Numeral.number ⟨true, ['6'], none⟩) :=
    eq_ok_of_toOption (by decide +kernel)
  have results :=
    finalize_chained finalized noExponent (by decide) allDigits .mul
  obtain ⟨shown, written, shows⟩ := results.1 _ computed
  have sixWritten : NumberFormat.format calculator.precision
      (Numeral.number ⟨true, ['6'], none⟩) = .ok "-6".toList :=
    eq_ok_of_toOption (by decide +kernel)
  obtain rfl := Except.ok.inj (written.symm.trans sixWritten)
  exact ⟨finalized, noExponent, allDigits, computed, shows⟩

/-- Five is what is left of a finalized zero times five. -/
theorem chained_zero_gives_way :
    let calculator := (new 12 none).afterAll [.press "5-5".toList]
    let chained := calculator.finalize.calculator.afterAll
      (Operation.keystrokes "*5".toList)
    calculator.finalize.Shows (.number "0".toList) ∧
      'e' ∉ "0".toList ∧
      compute "0*5".toList = .ok Binary64.zero ∧
      NumberFormat.format calculator.precision Binary64.zero = .ok "0".toList ∧
      chained.finalize.Shows (.number "5".toList) ∧
      ¬ chained.finalize.Shows (.number "0".toList) := by
  intro calculator chained
  have five : chained.finalize.Shows (.number "5".toList) := by
    constructor
    · exact eq_ok_of_toOption (by decide +kernel)
    · decide +kernel
  refine ⟨⟨?_, ?_⟩, by decide, ?_, ?_, five, ?_⟩
  · exact eq_ok_of_toOption (by decide +kernel)
  · decide +kernel
  · exact eq_ok_of_toOption (by decide +kernel)
  · exact eq_ok_of_toOption (by decide +kernel)
  · intro zero
    have impossible := five.unique zero
    contradiction

end Calculator

end Keypad
