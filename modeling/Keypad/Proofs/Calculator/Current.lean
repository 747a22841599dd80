import Keypad.Proofs.Calculator.Agreement
import Keypad.Proofs.Calculator.Keystrokes

/-!
What is shown belongs to the entry.

The entry and the readout are set by different operations, and a refused key leaves
both as they are.  Still they go together in every state: an edit shows its preview,
a result replaces the entry, and emptying the keypad empties both.

Owns:
- the readouts that go with an entry;
- the law of each operation, and of all reachable states.

The exception is a result that cannot be written at the precision: the operation
stops, and an older readout stays in sight.

Main statement: `readout_current`.
-/

namespace Keypad.Calculator

abbrev ReachedByKeys (start calculator : Calculator) : Prop :=
  Reaches (fun operation => operation.isKeyed = true) start calculator

/-- The readout goes with the entry. -/
inductive Current (start calculator : Calculator) : Prop where
  | result {value : Binary64} {text : Text}
      (computed : compute calculator.entry = .ok value)
      (written : NumberFormat.format calculator.precision value = .ok text)
      (shown : calculator.readout = .number text)
  | finalized {earlier : Calculator}
      (reached : ReachedByKeys start earlier)
      (just : earlier.finalize.calculator = calculator)
      (shown : calculator.readout = .number calculator.entry)
  | error {fault : Fault}
      (failed : compute calculator.entry = .error fault)
      (shown : calculator.readout = .error)
  | noValue
      (nothing : calculator.entry = Entry.initial ∨
        ∃ fault, compute calculator.entry = .error fault)
      (shown : calculator.readout = .noValue)

def Unwritable (calculator : Calculator) : Prop :=
  ¬ Usable calculator.precision ∧
    ∃ value, compute calculator.entry = .ok value ∧
      NumberFormat.isScientific value = false

/-! ## By operation -/

variable {start calculator : Calculator}

private theorem preview_current (start calculator : Calculator) :
    Current start calculator.preview.calculator ∨
      Unwritable calculator.preview.calculator := by
  have entry := preview_entry calculator
  have precision := preview_precision calculator
  cases computed : compute calculator.entry with
  | error fault =>
      have shows := (shows_no_number_of_error computed).1
      exact .inl (.noValue (.inr ⟨fault, entry ▸ computed⟩) shows.2)
  | ok value =>
      cases written : NumberFormat.format calculator.precision value with
      | ok text =>
          have shows := (shows_number_of_ok computed written).1
          exact .inl (.result (entry ▸ computed) (precision ▸ written) shows.2)
      | error fault =>
          obtain ⟨positional, unusable⟩ := unusable_of_format_error written
          exact .inr ⟨precision ▸ unusable, value, entry ▸ computed, positional⟩

private theorem finalize_current (reached : ReachedByKeys start calculator) :
    Current start calculator.finalize.calculator ∨
      Unwritable calculator.finalize.calculator := by
  cases computed : compute calculator.entry with
  | error fault =>
      obtain ⟨_, shows, entry⟩ := shows_no_number_of_error computed
      exact .inl (.error (entry ▸ computed) shows.2)
  | ok value =>
      cases written : NumberFormat.format calculator.precision value with
      | ok text =>
          obtain ⟨_, shows, entry⟩ := shows_number_of_ok computed written
          exact .inl (.finalized reached rfl (entry ▸ shows.2))
      | error fault =>
          obtain ⟨positional, unusable⟩ := unusable_of_format_error written
          obtain ⟨_, entry, _⟩ := (stops_of_unusable computed written).2
          have precision := finalize_precision calculator
          exact .inr ⟨precision ▸ unusable, value, entry ▸ computed, positional⟩

private theorem clear_current (start calculator : Calculator) :
    Current start calculator.clear.calculator :=
  .noValue (.inl (clear_entry calculator)) (clear_readout calculator)

/-- Refused keys keep the readout with the entry; all else sets it. -/
theorem current_after
    {operation : Operation}
    (immediate : calculator.debouncer = none)
    (reached : ReachedByKeys start calculator)
    (current : Current start calculator ∨ Unwritable calculator)
    (isKeyed : operation.isKeyed = true) :
    Current start (calculator.after operation) ∨
      Unwritable (calculator.after operation) := by
  have edited_current (entry : Text) :
      Current start (calculator.withEntry entry).edited.calculator ∨
        Unwritable (calculator.withEntry entry).edited.calculator := by
    have stillImmediate : (calculator.withEntry entry).debouncer = none := immediate
    rw [edited_of_no_debouncer stillImmediate]
    exact preview_current start (calculator.withEntry entry)
  cases operation with
  | submit text =>
      show Current start (calculator.submit text).calculator ∨
        Unwritable (calculator.submit text).calculator
      cases edits : Operation.edits calculator.entry (.submit text) with
      | true =>
          obtain ⟨key, single, admitted⟩ := submit_of_edits edits
          rw [submit_of_admits single admitted]
          exact edited_current (Entry.append calculator.entry key)
      | false =>
          rw [submit_of_not_edits edits]
          exact current
  | backspace => exact edited_current (Entry.eraseLast calculator.entry)
  | parentheses =>
      exact edited_current (calculator.entry ++ Entry.parenthesisKeys calculator.entry)
  | clear => exact .inl (clear_current start calculator)
  | finalize => exact finalize_current reached
  | preview => exact preview_current start calculator
  | _ => contradiction

/-! ## Reachable states -/

/-- Without a debouncer at the start there is none later, and the precision
stays. -/
theorem immediate_of_reaches
    {precision : Int}
    (reached : ReachedByKeys (new precision none) calculator) :
    calculator.debouncer = none ∧ calculator.precision = precision := by
  have followed : ∃ delayed, Follows precision delayed calculator := by
    induction reached with
    | refl => exact ⟨_, follows_new precision Binary64.zero⟩
    | step _ isKeyed inductionHypothesis =>
        obtain ⟨delayed, follows⟩ := inductionHypothesis
        exact ⟨_, follows.after_keyed isKeyed⟩
  obtain ⟨_, follows⟩ := followed
  exact ⟨follows.immediately, follows.immediatePrecision⟩

/-- In every state that a new calculator reaches, what is shown is the result of the
entry, or the entry itself that was just finalized, or an error for an entry without
a result, or no value for such an entry or an empty keypad; unless the entry has a
result without an exponent, and the precision cannot be used. -/
theorem readout_current
    {precision : Int}
    {calculator : Calculator}
    (reached : ReachedByKeys (new precision none) calculator) :
    calculator.precision = precision ∧
      (Current (new precision none) calculator ∨
        ¬ Usable precision ∧
          ∃ value, compute calculator.entry = .ok value ∧
            NumberFormat.isScientific value = false) := by
  have current : Current (new precision none) calculator ∨ Unwritable calculator := by
    induction reached with
    | refl => exact .inl (.noValue (.inl rfl) rfl)
    | step between isKeyed inductionHypothesis =>
        exact current_after (immediate_of_reaches between).1 between
          inductionHypothesis isKeyed
  obtain ⟨_, samePrecision⟩ := immediate_of_reaches reached
  rw [Unwritable, samePrecision] at current
  exact ⟨samePrecision, current⟩

/-- A result with an exponent stays in sight over a refused key, although the entry
that it became has no result. -/
theorem readout_current_exponent :
    let start := new 12 none
    let calculator := start.afterAll
      (Operation.keystrokes "1/3000000000".toList ++ [.finalize, .submit ['e']])
    ReachedByKeys start calculator ∧
      calculator.readout = .number "3.333333e-10".toList ∧
      (compute calculator.entry).toOption = none ∧
      Current start calculator := by
  intro start calculator
  have reached : ReachedByKeys start calculator :=
    Reaches.refl.afterAll _ (by decide)
  refine ⟨reached, by decide +kernel, by decide +kernel, ?_⟩
  rcases (readout_current reached).2 with current | ⟨unusable, _⟩
  · exact current
  · exact absurd ⟨by decide, by decide⟩ unusable

/-- At a precision that cannot be used the first digit is not shown. -/
theorem readout_stale_at_unusable_precision :
    let start := new (2 ^ 31) none
    let calculator := start.after (.submit ['5'])
    0 ≤ calculator.precision ∧ ReachedByKeys start calculator ∧
      ¬ Current start calculator := by
  intro start calculator
  have entry : calculator.entry = ['5'] := by decide +kernel
  have readout : calculator.readout = .noValue := by decide +kernel
  have computes : (compute ['5']).toOption.isSome = true := by decide +kernel
  refine ⟨by decide +kernel, .step .refl rfl, ?_⟩
  intro current
  cases current with
  | result computed written shown => exact nomatch readout.symm.trans shown
  | finalized reached just shown => exact nomatch readout.symm.trans shown
  | error failed shown => exact nomatch readout.symm.trans shown
  | noValue nothing shown =>
      rw [entry] at nothing
      rcases nothing with isInitial | ⟨fault, failed⟩
      · exact absurd isInitial (by decide)
      · rw [failed] at computes
        exact absurd computes Bool.false_ne_true

end Keypad.Calculator
