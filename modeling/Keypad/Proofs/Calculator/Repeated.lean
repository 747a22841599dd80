import Keypad.Proofs.Calculator.Agreement
import Keypad.Proofs.NumberFormat.Reread

/-!
Finalizing a result.

A result that was just finalized is the entry.  Without an exponent it is a numeral
that is computed to itself, so that finalizing it again changes nothing; with one it
is no expression, for its letter belongs to no lexeme.

Owns: what finalizing a calculator twice in a row shows.

Main statement: `finalize_twice`.
-/

namespace Keypad

/-- An entry with the letter of an exponent has no result. -/
theorem Entry.WellKept.compute_of_letter
    {entry : Text}
    (kept : Entry.WellKept entry)
    (letter : 'e' ∈ entry) :
    ∃ fault, compute entry = .error fault := by
  cases computed : compute entry with
  | error fault => exact ⟨fault, rfl⟩
  | ok value =>
      obtain ⟨tokens, _, read, _, _⟩ := compute_eq_ok computed
      obtain ⟨lexemes, spelled, admissible, _⟩ :=
        Token.ofText_eq_ok_iff_spells.mp read
      rw [Lexeme.Spells, kept.squeeze_plain] at spelled
      rw [spelled] at letter
      have key := Lexeme.isKey_of_mem_spelling admissible letter
      contradiction

/-- A positional notation is computed to a number that is written in the same way. -/
private theorem compute_of_positional
    {precision : ℤ}
    {value : Binary64}
    {text : Text}
    (finite : value.isFinite = true)
    (positionalNotation : NumberFormat.isScientific value = false)
    (written : NumberFormat.format precision value = .ok text) :
    ∃ again, compute text = .ok again ∧
      NumberFormat.format precision again = .ok text := by
  obtain ⟨numeral, wellFormed, isText, isFinite, writtenAgain⟩ :=
    NumberFormat.format_reread finite positionalNotation written
  refine ⟨numeral.number.unsignZero, ?_, ?_⟩
  · rw [isText, compute_numeral wellFormed, reportValue, if_pos isFinite]
  · rw [NumberFormat.format_unsignZero]
    exact writtenAgain

namespace Calculator

/-- A finalized calculator has no pending preview to drop. -/
theorem finalize_withoutPending (calculator : Calculator) :
    calculator.finalize.calculator.withoutPending =
      calculator.finalize.calculator := by
  have cancelled := finalize_debouncer calculator
  generalize calculator.finalize.calculator = once at *
  cases once with
  | mk precision entry readout debouncer =>
      rw [withoutPending]
      obtain rfl : debouncer = calculator.debouncer.map Debouncer.cancel := cancelled
      cases calculator.debouncer <;> rfl

/-- A result without an exponent stays when it is finalized again, and so does the
rest of the calculator.  A result with one turns into an error then, and the entry
stays. -/
theorem finalize_twice
    {calculator : Calculator}
    {text : Text}
    (finalized : calculator.finalize.Shows (.number text)) :
    let once := calculator.finalize.calculator
    ('e' ∉ text →
        once.finalize.Shows (.number text) ∧ once.finalize.calculator = once) ∧
      ('e' ∈ text →
        once.finalize.Shows .error ∧
          once.finalize.calculator = once.showing .error ∧
          once.finalize.calculator.entry = text) := by
  intro once
  obtain ⟨value, computed, written⟩ :=
    (finalize_shows_number_iff calculator text).mp finalized
  have isEntry : once.entry = text := (shows_number_of_ok computed written).2.2
  have precision : once.precision = calculator.precision :=
    finalize_precision calculator
  have idle : once.withoutPending = once := finalize_withoutPending calculator
  have finite := isFinite_of_compute computed
  constructor
  · intro noLetter
    have positionalNotation : NumberFormat.isScientific value = false := by
      rw [← Bool.not_eq_true]
      intro scientificNotation
      exact noLetter
        (Entry.WellKept.letter_of_isScientific finite written scientificNotation)
    obtain ⟨again, computedAgain, writtenAgain⟩ :=
      compute_of_positional finite positionalNotation written
    rw [← isEntry] at computedAgain
    rw [← precision] at writtenAgain
    refine ⟨(shows_number_of_ok computedAgain writtenAgain).2.1, ?_⟩
    have sameReadout : once.showing (.number text) = once := by
      rw [showing, ← finalized.2]
    have sameEntry : once.withEntry text = once := by
      rw [withEntry, ← isEntry]
    rw [finalize_of_ok computedAgain writtenAgain, idle, sameEntry, sameReadout]
  · intro letter
    have kept := Entry.WellKept.of_format finite written
    obtain ⟨fault, failed⟩ := kept.compute_of_letter letter
    rw [← isEntry] at failed
    obtain ⟨_, shows, entry⟩ := shows_no_number_of_error failed
    refine ⟨shows, ?_, entry.trans isEntry⟩
    rw [finalize_of_error failed, idle]

/-- A third stays rounded to two places; of a third of a billionth only the entry
stays. -/
theorem finalize_twice_thirds :
    let third := (new 2 none).afterAll [.press "1/3".toList]
    let small := (new 2 none).afterAll [.press "1/3000000000".toList]
    third.finalize.Shows (.number "0.33".toList) ∧
      third.finalize.calculator.finalize.Shows (.number "0.33".toList) ∧
      small.finalize.Shows (.number "3.333333e-10".toList) ∧
      small.finalize.calculator.finalize.Shows .error ∧
      small.finalize.calculator.finalize.calculator.entry =
        "3.333333e-10".toList := by
  intro third small
  have thirdShown : third.finalize.Shows (.number "0.33".toList) := by
    constructor
    · exact eq_ok_of_toOption (by decide +kernel)
    · decide +kernel
  have smallShown : small.finalize.Shows (.number "3.333333e-10".toList) := by
    constructor
    · exact eq_ok_of_toOption (by decide +kernel)
    · decide +kernel
  obtain ⟨again, _⟩ := (finalize_twice thirdShown).1 (by decide)
  obtain ⟨error, _, entry⟩ := (finalize_twice smallShown).2 (by decide)
  exact ⟨thirdShown, again, smallShown, error, entry⟩

end Calculator

end Keypad
