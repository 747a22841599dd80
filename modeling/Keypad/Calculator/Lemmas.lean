import Keypad.Calculator.Basic

/-!
What each operation does to a calculator's entry, readout and pending preview.

Owns: one law per operation and component.  Later statements about sessions
follow from these without looking into the operations.

Main statements: `preview_entry` and `edited_entry` (previews keep the entry),
`submit_of_admits` and `submit_of_refused` (what typing a key does),
`edited_readout_of_debouncer` (a debounced edit keeps the readout).
-/

namespace Keypad.Calculator

/-! ## The parts that are set -/

@[simp] theorem showing_entry (calculator : Calculator) (readout : Readout) :
    (calculator.showing readout).entry = calculator.entry :=
  rfl

@[simp] theorem withEntry_entry (calculator : Calculator) (entry : Text) :
    (calculator.withEntry entry).entry = entry :=
  rfl

@[simp] theorem withEntry_readout (calculator : Calculator) (entry : Text) :
    (calculator.withEntry entry).readout = calculator.readout :=
  rfl

@[simp] theorem withoutPending_entry (calculator : Calculator) :
    calculator.withoutPending.entry = calculator.entry :=
  rfl

/-- Nothing is pending once the pending preview has been dropped. -/
@[simp] theorem withoutPending_isPending (calculator : Calculator) :
    calculator.withoutPending.isPending = false := by
  cases calculator with
  | mk precision entry readout debouncer => cases debouncer <;> rfl

/-! ## Previews -/

/-- A preview keeps the entry. -/
@[simp] theorem preview_entry (calculator : Calculator) :
    calculator.preview.calculator.entry = calculator.entry := by
  unfold preview
  split
  · split
    · split <;> rfl
    · rfl
  · rfl

/-- A preview keeps the debouncer. -/
@[simp] theorem preview_debouncer (calculator : Calculator) :
    calculator.preview.calculator.debouncer = calculator.debouncer := by
  unfold preview
  split
  · split
    · split <;> rfl
    · rfl
  · rfl

/-- A preview keeps the precision. -/
@[simp] theorem preview_precision (calculator : Calculator) :
    calculator.preview.calculator.precision = calculator.precision := by
  unfold preview
  split
  · split
    · split <;> rfl
    · rfl
  · rfl

/-- A poll keeps the entry, whether it runs a preview or not. -/
@[simp] theorem runTaken_entry
    (calculator : Calculator)
    (taken : Option (Request Unit × Debouncer Unit)) :
    (calculator.runTaken taken).calculator.entry = calculator.entry := by
  cases taken with
  | none => rfl
  | some pair => exact preview_entry _

/-- An edit keeps the entry that it was made to. -/
@[simp] theorem edited_entry (calculator : Calculator) :
    calculator.edited.calculator.entry = calculator.entry := by
  unfold edited
  split
  · exact preview_entry calculator
  · rfl

/-- An edit keeps the precision. -/
@[simp] theorem edited_precision (calculator : Calculator) :
    calculator.edited.calculator.precision = calculator.precision := by
  unfold edited
  split
  · exact preview_precision calculator
  · rfl

/-- Without a debouncer an edit is followed by its preview. -/
theorem edited_of_no_debouncer
    {calculator : Calculator}
    (immediate : calculator.debouncer = none) :
    calculator.edited = calculator.preview := by
  simp [edited, immediate]

/-- With a debouncer an edit keeps the readout. -/
theorem edited_readout_of_debouncer
    {calculator : Calculator}
    {debouncer : Debouncer Unit}
    (delayed : calculator.debouncer = some debouncer) :
    calculator.edited.calculator.readout = calculator.readout := by
  simp [edited, delayed, reached]

/-- With a debouncer an edit leaves a preview pending. -/
theorem edited_isPending_of_debouncer
    {calculator : Calculator}
    {debouncer : Debouncer Unit}
    (delayed : calculator.debouncer = some debouncer) :
    calculator.edited.calculator.isPending = true := by
  simp [edited, delayed, reached, isPending, Debouncer.isPending]

/-! ## Typing -/

/-- A key that may follow the entry is appended to it. -/
theorem submit_of_admits
    {calculator : Calculator}
    {text : Text}
    {key : Char}
    (single : Text.plain text = [key])
    (admitted : Entry.admits calculator.entry key = true) :
    calculator.submit text =
      (calculator.withEntry (Entry.append calculator.entry key)).edited := by
  simp [submit, single, admitted]

/-- A key that may not follow the entry changes nothing. -/
theorem submit_of_refused
    {calculator : Calculator}
    {text : Text}
    {key : Char}
    (single : Text.plain text = [key])
    (refused : Entry.admits calculator.entry key = false) :
    calculator.submit text =
      calculator.reached [.rejected [key] calculator.entry] := by
  simp [submit, single, refused]

/-- Typing keeps the entry, or appends the one key that the text stands for. -/
theorem submit_entry (calculator : Calculator) (text : Text) :
    (calculator.submit text).calculator.entry = calculator.entry ∨
      ∃ key, Text.plain text = [key] ∧
        Entry.admits calculator.entry key = true ∧
        (calculator.submit text).calculator.entry =
          Entry.append calculator.entry key := by
  unfold submit
  split
  · rename_i key single
    by_cases admitted : Entry.admits calculator.entry key = true
    · rw [if_pos admitted, edited_entry]
      exact .inr ⟨key, single, admitted, rfl⟩
    · rw [if_neg admitted]
      exact .inl rfl
  · exact .inl rfl

@[simp] theorem backspace_entry (calculator : Calculator) :
    calculator.backspace.calculator.entry =
      Entry.eraseLast calculator.entry := by
  simp [backspace]

@[simp] theorem parentheses_entry (calculator : Calculator) :
    calculator.parentheses.calculator.entry =
      calculator.entry ++ Entry.parenthesisKeys calculator.entry := by
  simp [parentheses]

/-! ## Clearing and finalizing -/

@[simp] theorem clear_entry (calculator : Calculator) :
    calculator.clear.calculator.entry = Entry.initial :=
  rfl

@[simp] theorem clear_readout (calculator : Calculator) :
    calculator.clear.calculator.readout = .noValue :=
  rfl

/-- A result that can be written becomes the entry and the readout. -/
theorem finalize_of_ok
    {calculator : Calculator}
    {value : Binary64}
    {text : Text}
    (computed : compute calculator.entry = .ok value)
    (written : NumberFormat.format calculator.precision value = .ok text) :
    calculator.finalize.calculator =
      (calculator.withoutPending.withEntry text).showing (.number text) := by
  have precision :
      calculator.withoutPending.precision = calculator.precision := rfl
  simp [finalize, computed, precision, written, reached]

/-- An entry without a result is kept, and an error is shown. -/
theorem finalize_of_error
    {calculator : Calculator}
    {fault : Fault}
    (failed : compute calculator.entry = .error fault) :
    calculator.finalize.calculator =
      calculator.withoutPending.showing .error := by
  simp [finalize, failed, reached]

/-- A result that cannot be written only drops the pending preview. -/
theorem finalize_of_unusable
    {calculator : Calculator}
    {value : Binary64}
    {fault : PrecisionFault}
    (computed : compute calculator.entry = .ok value)
    (failed : NumberFormat.format calculator.precision value = .error fault) :
    calculator.finalize.calculator = calculator.withoutPending := by
  have precision :
      calculator.withoutPending.precision = calculator.precision := rfl
  simp [finalize, computed, precision, failed, stopped]

end Keypad.Calculator
