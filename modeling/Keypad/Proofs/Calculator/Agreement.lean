import Keypad.Proofs.Calculator.Debounced
import Keypad.Proofs.Computation
import Keypad.Proofs.Lexeme.Spelling

/-!
A preview and the result agree.

A preview looks at the parentheses first and gives no value to an entry whose
groups are not closed.  That hides no result, because no such entry has one: the
parentheses of a text that is read are those of its tokens, and only balanced
tokens are put into post-order.

Owns:
- what an operation that shows something, or stops, leaves behind;
- previews and results by the outcome of the computation.

Main statement: `preview_agrees_with_finalize`.
-/

namespace Keypad

/-- An entry with a result has as many closed groups as opened ones. -/
theorem Entry.balanced_of_compute
    {entry : Text}
    {value : Binary64}
    (computed : compute entry = .ok value) :
    Entry.balanced entry = true := by
  obtain ⟨tokens, postfixed, read, reordered, _⟩ := compute_eq_ok computed
  obtain ⟨opened, closed⟩ := Token.parentheses_of_ofText read
  have settled := (Yard.reorder_balanced reordered).settled
  rw [Entry.balanced, opened, closed, settled]
  exact decide_eq_true rfl

private theorem compute_of_openings_ne_closings
    {text : Text}
    (differ : Entry.openings text ≠ Entry.closings text) :
    ∃ fault, compute text = .error fault := by
  cases computed : compute text with
  | error fault => exact ⟨fault, rfl⟩
  | ok value =>
      have balanced := Entry.balanced_of_compute computed
      exact absurd (of_decide_eq_true balanced) differ

namespace Effect

/-- The operation answers with what its calculator displays, and that is the
given readout. -/
def Shows (effect : Effect Display) (readout : Readout) : Prop :=
  effect.outcome = .ok effect.calculator.display ∧
    effect.calculator.readout = readout

/-- The operation stops over the precision and leaves the entry and the readout
of the calculator as they were. -/
def StopsFrom (effect : Effect Display) (calculator : Calculator)
    (fault : PrecisionFault) : Prop :=
  effect.outcome = .error fault ∧
    effect.calculator.entry = calculator.entry ∧
    effect.calculator.readout = calculator.readout

theorem Shows.unique
    {effect : Effect Display}
    {first second : Readout}
    (showsFirst : effect.Shows first)
    (showsSecond : effect.Shows second) :
    first = second :=
  showsFirst.2.symm.trans showsSecond.2

private theorem StopsFrom.not_shows
    {effect : Effect Display}
    {calculator : Calculator}
    {fault : PrecisionFault}
    (stops : effect.StopsFrom calculator fault)
    (readout : Readout) :
    ¬ effect.Shows readout := by
  intro showsReadout
  have impossible := stops.1.symm.trans showsReadout.1
  contradiction

end Effect

namespace Calculator

variable {calculator : Calculator} {value : Binary64}

/-! ## By the outcome of the computation -/

theorem shows_number_of_ok
    {text : Text}
    (computed : compute calculator.entry = .ok value)
    (written : NumberFormat.format calculator.precision value = .ok text) :
    calculator.preview.Shows (.number text) ∧
      calculator.finalize.Shows (.number text) ∧
      calculator.finalize.calculator.entry = text := by
  have previewed : calculator.preview =
      (calculator.showing (.number text)).reached [] := by
    simp [preview, Entry.balanced_of_compute computed, computed, written]
  have finalized : calculator.finalize =
      ((calculator.withoutPending.withEntry text).showing (.number text)).reached
        [] := by
    have precision :
        calculator.withoutPending.precision = calculator.precision := rfl
    simp [finalize, computed, precision, written]
  rw [previewed, finalized]
  exact ⟨⟨rfl, rfl⟩, ⟨rfl, rfl⟩, rfl⟩

theorem shows_no_number_of_error
    {fault : Fault}
    (failed : compute calculator.entry = .error fault) :
    calculator.preview.Shows .noValue ∧
      calculator.finalize.Shows .error ∧
      calculator.finalize.calculator.entry = calculator.entry := by
  constructor
  · unfold preview
    split
    · rw [failed]
      exact ⟨rfl, rfl⟩
    · exact ⟨rfl, rfl⟩
  · have finalized : calculator.finalize =
        (calculator.withoutPending.showing .error).reached
          [.cannotFinalize calculator.entry fault] := by
      simp [finalize, failed]
    rw [finalized]
    exact ⟨⟨rfl, rfl⟩, rfl⟩

theorem stops_of_unusable
    {fault : PrecisionFault}
    (computed : compute calculator.entry = .ok value)
    (failed : NumberFormat.format calculator.precision value = .error fault) :
    calculator.preview.StopsFrom calculator fault ∧
      calculator.finalize.StopsFrom calculator fault := by
  have previewed : calculator.preview = calculator.stopped fault := by
    simp [preview, Entry.balanced_of_compute computed, computed, failed]
  have finalized :
      calculator.finalize = calculator.withoutPending.stopped fault := by
    have precision :
        calculator.withoutPending.precision = calculator.precision := rfl
    simp [finalize, computed, precision, failed]
  rw [previewed, finalized]
  exact ⟨⟨rfl, rfl, rfl⟩, ⟨rfl, rfl, rfl⟩⟩

/-- Only a number without an exponent, at a precision that cannot be used, is not
written. -/
theorem unusable_of_format_error
    {precision : Int}
    {fault : PrecisionFault}
    (failed : NumberFormat.format precision value = .error fault) :
    NumberFormat.isScientific value = false ∧ ¬ Usable precision := by
  constructor
  · rw [← Bool.not_eq_true]
    intro scientificNotation
    obtain ⟨text, written⟩ :=
      NumberFormat.format_of_isScientific precision scientificNotation
    exact nomatch failed.symm.trans written
  · intro usable
    obtain ⟨text, written⟩ := format_of_usable usable value
    exact nomatch failed.symm.trans written

/-- An operation that shows a result if it can, and otherwise a placeholder or
nothing new, shows a number exactly if that is the result. -/
theorem shows_number_iff
    {effect : Effect Display}
    {placeholder : Readout}
    (noNumber : ∀ text, placeholder ≠ .number text)
    (ofOk : ∀ {value text}, compute calculator.entry = .ok value →
      NumberFormat.format calculator.precision value = .ok text →
        effect.Shows (.number text))
    (ofError : ∀ {fault}, compute calculator.entry = .error fault →
      effect.Shows placeholder)
    (ofUnusable : ∀ {value fault}, compute calculator.entry = .ok value →
      NumberFormat.format calculator.precision value = .error fault →
        effect.StopsFrom calculator fault)
    (text : Text) :
    effect.Shows (.number text) ↔
      ∃ value, compute calculator.entry = .ok value ∧
        NumberFormat.format calculator.precision value = .ok text := by
  constructor
  · intro shows
    cases computed : compute calculator.entry with
    | error fault => exact absurd ((ofError computed).unique shows) (noNumber text)
    | ok value =>
        cases written : NumberFormat.format calculator.precision value with
        | error fault => exact absurd shows ((ofUnusable computed written).not_shows _)
        | ok found =>
            obtain rfl := Readout.number.inj ((ofOk computed written).unique shows)
            exact ⟨value, rfl, written⟩
  · rintro ⟨value, computed, written⟩
    exact ofOk computed written

private theorem preview_shows_number_iff (calculator : Calculator) (text : Text) :
    calculator.preview.Shows (.number text) ↔
      ∃ value, compute calculator.entry = .ok value ∧
        NumberFormat.format calculator.precision value = .ok text :=
  shows_number_iff (fun _ => Readout.noConfusion)
    (fun computed written => (shows_number_of_ok computed written).1)
    (fun failed => (shows_no_number_of_error failed).1)
    (fun computed failed => (stops_of_unusable computed failed).1) text

theorem finalize_shows_number_iff (calculator : Calculator) (text : Text) :
    calculator.finalize.Shows (.number text) ↔
      ∃ value, compute calculator.entry = .ok value ∧
        NumberFormat.format calculator.precision value = .ok text :=
  shows_number_iff (fun _ => Readout.noConfusion)
    (fun computed written => (shows_number_of_ok computed written).2.1)
    (fun failed => (shows_no_number_of_error failed).2.1)
    (fun computed failed => (stops_of_unusable computed failed).2) text

/-- A number that is written without an exponent is written at a precision that
can be used. -/
theorem usable_of_positional
    {precision : Int}
    {value : Binary64}
    {text : Text}
    (finite : value.isFinite = true)
    (positional : NumberFormat.isScientific value = false)
    (written : NumberFormat.format precision value = .ok text) :
    Usable precision := by
  cases value with
  | infinite negative => contradiction
  | nan => contradiction
  | finite negative quanta representable =>
      rw [NumberFormat.format, positional, if_neg Bool.false_ne_true] at written
      obtain ⟨places, accepted, _⟩ := ok_of_bind written
      exact NumberFormat.usable_of_places accepted

theorem finalize_shows_of_usable
    {calculator : Calculator}
    (usable : Usable calculator.precision) :
    (∀ value, compute calculator.entry = .ok value →
        ∃ shown, NumberFormat.format calculator.precision value = .ok shown ∧
          calculator.finalize.Shows (.number shown)) ∧
      ∀ fault, compute calculator.entry = .error fault →
        calculator.finalize.Shows .error := by
  constructor
  · intro value computed
    obtain ⟨shown, written⟩ := format_of_usable usable value
    exact ⟨shown, written, (shows_number_of_ok computed written).2.1⟩
  · intro fault failed
    exact (shows_no_number_of_error failed).2.1

/-! ## Agreement -/

/-- No text with unequal numbers of parentheses has a result.  A preview shows a
number exactly if finalizing shows it and goes on with it.  Otherwise the preview
shows no value where finalizing shows an error and keeps the entry, unless the
entry has a result that cannot be written at the precision, over which both stop
and change nothing in sight. -/
theorem preview_agrees_with_finalize (calculator : Calculator) :
    (∀ text, Entry.openings text ≠ Entry.closings text →
        ∃ fault, compute text = .error fault) ∧
      (∀ text, calculator.preview.Shows (.number text) ↔
        calculator.finalize.Shows (.number text) ∧
          calculator.finalize.calculator.entry = text) ∧
      ((∀ text, ¬ calculator.preview.Shows (.number text)) →
        (calculator.preview.Shows .noValue ∧
            calculator.finalize.Shows .error ∧
            calculator.finalize.calculator.entry = calculator.entry) ∨
          ∃ value fault, compute calculator.entry = .ok value ∧
            NumberFormat.isScientific value = false ∧
            ¬ Usable calculator.precision ∧
            calculator.preview.StopsFrom calculator fault ∧
            calculator.finalize.StopsFrom calculator fault) := by
  refine ⟨fun text => compute_of_openings_ne_closings, ?_, ?_⟩
  · intro text
    constructor
    · intro previewed
      obtain ⟨value, computed, written⟩ :=
        (preview_shows_number_iff calculator text).mp previewed
      exact (shows_number_of_ok computed written).2
    · rintro ⟨finalized, _⟩
      apply (preview_shows_number_iff calculator text).mpr
      exact (finalize_shows_number_iff calculator text).mp finalized
  · intro noNumber
    cases computed : compute calculator.entry with
    | error fault => exact .inl (shows_no_number_of_error computed)
    | ok value =>
        cases written : NumberFormat.format calculator.precision value with
        | ok text =>
            have previewed := (shows_number_of_ok computed written).1
            exact absurd previewed (noNumber text)
        | error fault =>
            obtain ⟨positional, unusable⟩ := unusable_of_format_error written
            obtain ⟨previewStops, finalizeStops⟩ := stops_of_unusable computed written
            exact .inr ⟨value, fault, rfl, positional, unusable, previewStops,
              finalizeStops⟩

/-- An open group has no value, and an error once it is finalized; a closed one
has the same number both times. -/
theorem preview_agrees_with_finalize_group :
    let opened := (new 12 none).withEntry "5-(2".toList
    let closed := (new 12 none).withEntry "(2-5)".toList
    Entry.openings opened.entry ≠ Entry.closings opened.entry ∧
      (∃ fault, compute opened.entry = .error fault) ∧
      (∀ text, ¬ opened.preview.Shows (.number text)) ∧
      opened.finalize.Shows .error ∧
      opened.finalize.calculator.entry = "5-(2".toList ∧
      closed.preview.Shows (.number "-3".toList) ∧
      closed.finalize.Shows (.number "-3".toList) ∧
      closed.finalize.calculator.entry = "-3".toList := by
  intro opened closed
  have differ : Entry.openings opened.entry ≠ Entry.closings opened.entry := by
    decide
  have noValue : opened.preview.calculator.readout = .noValue := by decide +kernel
  have noNumber : ∀ text, ¬ opened.preview.Shows (.number text) := by
    intro text previewed
    have impossible := noValue.symm.trans previewed.2
    contradiction
  have usable : Usable opened.precision := by
    constructor <;> decide
  have previewed : closed.preview.Shows (.number "-3".toList) := by
    constructor
    · exact eq_ok_of_toOption (by decide +kernel)
    · decide +kernel
  have openedAgrees := preview_agrees_with_finalize opened
  have closedAgrees := preview_agrees_with_finalize closed
  have finalized := (closedAgrees.2.1 _).mp previewed
  refine ⟨differ, openedAgrees.1 _ differ, noNumber, ?_, ?_, previewed, finalized⟩
  · rcases openedAgrees.2.2 noNumber with shown | ⟨_, _, _, _, unusable, _⟩
    · exact shown.2.1
    · exact absurd usable unusable
  · rcases openedAgrees.2.2 noNumber with shown | ⟨_, _, _, _, unusable, _⟩
    · exact shown.2.2
    · exact absurd usable unusable

/-- At a precision that cannot be used, neither placeholder appears although no
number is shown. -/
theorem neither_placeholder_at_unusable_precision :
    let calculator := new (2 ^ 31) none
    (∀ text, ¬ calculator.preview.Shows (.number text)) ∧
      ¬ calculator.preview.Shows .noValue ∧
      ¬ calculator.finalize.Shows .error ∧
      calculator.finalize.calculator.readout ≠ .error := by
  intro calculator
  have previewStops : calculator.preview.outcome.toOption = none := by
    decide +kernel
  have finalizeStops : calculator.finalize.outcome.toOption = none := by
    decide +kernel
  have noPreview (readout : Readout) : ¬ calculator.preview.Shows readout := by
    intro previewed
    rw [previewed.1] at previewStops
    contradiction
  refine ⟨fun text => noPreview (.number text), noPreview .noValue, ?_, ?_⟩
  · intro finalized
    rw [finalized.1] at finalizeStops
    contradiction
  · decide +kernel

end Calculator

end Keypad
