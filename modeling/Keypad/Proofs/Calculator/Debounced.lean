import Keypad.Calculator.Lemmas
import Keypad.Calculator.Session

/-!
A debounced calculator follows one that shows its previews at once.

While a preview is pending, the other calculator already shows what it will
show; when none is pending, both show the same.  Every operation keeps that up,
in whatever order operations, clock readings and polls come.

Owns:
- the relation between the two calculators, and its law for each operation;
- what polls do while no preview is pending;
- the laws of whole runs.

A precision that cannot be used stops a preview before it changes the readout.
The readouts are therefore compared only at usable precisions, the entries at
every precision.

Main statement: `debounced_follows_immediate`.
-/

namespace Keypad

namespace Operation

def isKeyed : Operation → Bool
  | .submit _ | .backspace | .parentheses | .clear | .finalize | .preview => true
  | _ => false

def isBetween : Operation → Bool
  | .setClock _ | .poll | .flush => true
  | _ => false

/-- The operation changes the entry by a key and asks for a preview of it. -/
def edits (entry : Text) : Operation → Bool
  | .submit text =>
      match Text.plain text with
      | [key] => Entry.admits entry key
      | _ => false
  | .backspace | .parentheses => true
  | _ => false

end Operation

namespace Calculator

def Usable (precision : Int) : Prop :=
  0 ≤ precision ∧ precision ≤ NumberFormat.precisionLimit

/-! ## Previews and results at a usable precision -/

theorem format_of_usable
    {precision : Int}
    (usable : Usable precision)
    (number : Binary64) :
    ∃ text, NumberFormat.format precision number = .ok text := by
  cases number with
  | finite negative quanta representable =>
      rw [NumberFormat.format]
      split
      · exact ⟨NumberFormat.scientific negative quanta, rfl⟩
      · rw [NumberFormat.places_of_usable usable.1 usable.2]
        exact ⟨NumberFormat.positional precision.toNat negative quanta, rfl⟩
  | infinite negative => exact ⟨_, rfl⟩
  | nan => exact ⟨_, rfl⟩

theorem preview_answers
    {calculator : Calculator}
    (usable : Usable calculator.precision) :
    ∃ display, calculator.preview.outcome = .ok display := by
  unfold preview
  split
  · cases compute calculator.entry with
    | error fault => exact ⟨(calculator.showing .noValue).display, rfl⟩
    | ok value =>
        obtain ⟨text, written⟩ := format_of_usable usable value
        simp only [written]
        exact ⟨(calculator.showing (.number text)).display, rfl⟩
  · exact ⟨(calculator.showing .noValue).display, rfl⟩

/-- What a preview shows depends on the entry and the precision alone. -/
private theorem preview_readout_congr
    {left right : Calculator}
    (entries : left.entry = right.entry)
    (precisions : left.precision = right.precision)
    (answers : ∃ display, left.preview.outcome = .ok display) :
    left.preview.calculator.readout = right.preview.calculator.readout := by
  obtain ⟨display, answered⟩ := answers
  unfold preview at answered ⊢
  rw [← entries, ← precisions]
  split
  · rename_i balanced
    rw [if_pos balanced] at answered
    cases computed : compute left.entry with
    | error fault => rfl
    | ok value =>
        rw [computed] at answered
        cases written : NumberFormat.format left.precision value with
        | ok text =>
            simp only [written]
            rfl
        | error fault =>
            simp only [written] at answered
            contradiction
  · rfl

/-- What a finalized calculator shows and goes on with depends on the entry and
the precision alone, the entry even if the precision cannot be used. -/
private theorem finalize_congr
    {left right : Calculator}
    (entries : left.entry = right.entry)
    (precisions : left.precision = right.precision) :
    left.finalize.calculator.entry = right.finalize.calculator.entry ∧
      (Usable left.precision →
        left.finalize.calculator.readout = right.finalize.calculator.readout) := by
  cases computed : compute left.entry with
  | error fault =>
      rw [finalize_of_error computed, finalize_of_error (entries ▸ computed)]
      exact ⟨entries, fun _ => rfl⟩
  | ok value =>
      cases written : NumberFormat.format left.precision value with
      | ok text =>
          rw [finalize_of_ok computed written,
            finalize_of_ok (entries ▸ computed) (precisions ▸ written)]
          exact ⟨rfl, fun _ => rfl⟩
      | error fault =>
          rw [finalize_of_unusable computed written,
            finalize_of_unusable (entries ▸ computed) (precisions ▸ written)]
          refine ⟨entries, fun usable => ?_⟩
          obtain ⟨text, isWritten⟩ := format_of_usable usable value
          rw [written] at isWritten
          contradiction

@[simp] theorem finalize_precision (calculator : Calculator) :
    calculator.finalize.calculator.precision = calculator.precision := by
  unfold finalize
  simp only
  split
  · split <;> rfl
  · rfl

@[simp] theorem finalize_debouncer (calculator : Calculator) :
    calculator.finalize.calculator.debouncer =
      calculator.debouncer.map Debouncer.cancel := by
  unfold finalize
  simp only
  split
  · split <;> rfl
  · rfl

private theorem isPending_of_debouncer_eq
    {left right : Calculator}
    (debouncers : left.debouncer = right.debouncer) :
    left.isPending = right.isPending := by
  rw [isPending, isPending, debouncers]

private theorem isPending_of_cancelled
    {left right : Calculator}
    (debouncers : left.debouncer = right.debouncer.map Debouncer.cancel) :
    left.isPending = false := by
  rw [isPending, debouncers]
  cases right.debouncer <;> rfl

private theorem isPending_withClock (calculator : Calculator) (reading : Binary64) :
    (calculator.withClock reading).isPending = calculator.isPending := by
  unfold isPending withClock
  cases calculator.debouncer <;> rfl

/-! ## Typing and polling -/

theorem submit_of_not_edits
    {calculator : Calculator}
    {text : Text}
    (refused : Operation.edits calculator.entry (.submit text) = false) :
    (calculator.submit text).calculator = calculator := by
  unfold submit
  simp only [Operation.edits] at refused
  split
  · rename_i key single
    rw [single] at refused
    rw [if_neg (by simpa using refused)]
    rfl
  · rfl

theorem submit_of_edits
    {calculator : Calculator}
    {text : Text}
    (edits : Operation.edits calculator.entry (.submit text) = true) :
    ∃ key, Text.plain text = [key] ∧
      Entry.admits calculator.entry key = true := by
  simp only [Operation.edits] at edits
  split at edits
  · rename_i key single
    exact ⟨key, single, edits⟩
  · contradiction

/-- A preview that a poll may take: the pending one, after which none is
pending. -/
def Takes (calculator : Calculator)
    (taken : Option (Request Unit × Debouncer Unit)) : Prop :=
  ∀ request rest, taken = some (request, rest) →
    calculator.isPending = true ∧ rest.isPending = false

private theorem takes_flush (calculator : Calculator) :
    calculator.Takes (calculator.debouncer.bind Debouncer.flush?) := by
  intro request rest taken
  cases delayed : calculator.debouncer with
  | none =>
      rw [delayed] at taken
      contradiction
  | some debouncer =>
      rw [delayed] at taken
      have after := Debouncer.pending_of_flush? taken
      obtain ⟨pending, isPending, _⟩ := Option.map_eq_some_iff.mp taken
      constructor
      · simp [Calculator.isPending, delayed, Debouncer.isPending, isPending]
      · rw [Debouncer.isPending, show rest.pending = none from after]
        rfl

private theorem takes_poll (calculator : Calculator) :
    calculator.Takes (calculator.debouncer.bind Debouncer.poll?) := by
  intro request rest taken
  apply takes_flush calculator request rest
  cases delayed : calculator.debouncer with
  | none =>
      rw [delayed] at taken
      contradiction
  | some debouncer =>
      rw [delayed] at taken
      exact Debouncer.flush?_of_poll? taken

private theorem Takes.runTaken_of_idle
    {calculator : Calculator}
    {taken : Option (Request Unit × Debouncer Unit)}
    (takes : calculator.Takes taken)
    (idle : calculator.isPending = false) :
    (calculator.runTaken taken).calculator = calculator := by
  cases taken with
  | none => rfl
  | some pair =>
      have pending := (takes pair.1 pair.2 rfl).1
      rw [idle] at pending
      contradiction

/-! ## The relation between the two calculators -/

/-- The delayed calculator has the entry of the immediate one.  When nothing is
pending it also shows the same; while a preview is pending, the immediate one
shows what the preview is going to show. -/
structure Follows (precision : Int) (delayed immediate : Calculator) : Prop where
  entry : delayed.entry = immediate.entry
  delayedPrecision : delayed.precision = precision
  immediatePrecision : immediate.precision = precision
  debounced : delayed.debouncer.isSome = true
  immediately : immediate.debouncer = none
  settled : Usable precision → delayed.isPending = false →
    delayed.readout = immediate.readout
  awaited : Usable precision → delayed.isPending = true →
    immediate.readout = immediate.preview.calculator.readout

theorem follows_new (precision : Int) (wait : Binary64) :
    Follows precision (new precision (some (Debouncer.new wait)))
      (new precision none) where
  entry := rfl
  delayedPrecision := rfl
  immediatePrecision := rfl
  debounced := rfl
  immediately := rfl
  settled := fun _ _ => rfl
  awaited := fun _ pending => Bool.noConfusion pending

private theorem preview_shows_itself
    {calculator : Calculator}
    (usable : Usable calculator.precision) :
    calculator.preview.calculator.readout =
      calculator.preview.calculator.preview.calculator.readout :=
  preview_readout_congr (preview_entry calculator).symm
    (preview_precision calculator).symm (preview_answers usable)

namespace Follows

variable {precision : Int} {delayed immediate : Calculator}

private theorem precisions (follows : Follows precision delayed immediate) :
    delayed.precision = immediate.precision :=
  follows.delayedPrecision.trans follows.immediatePrecision.symm

/-- After an edit a preview is pending, and the immediate calculator has shown
its own. -/
theorem edited
    (follows : Follows precision delayed immediate)
    (entry : Text) :
    Follows precision (delayed.withEntry entry).edited.calculator
      (immediate.withEntry entry).edited.calculator := by
  obtain ⟨debouncer, isDebounced⟩ :=
    Option.isSome_iff_exists.mp follows.debounced
  have delays : (delayed.withEntry entry).debouncer = some debouncer := isDebounced
  have immediately : (immediate.withEntry entry).debouncer = none :=
    follows.immediately
  have pending := edited_isPending_of_debouncer delays
  rw [edited_of_no_debouncer immediately]
  exact {
    entry := by
      rw [edited_entry, preview_entry]
      rfl
    delayedPrecision := by
      rw [Calculator.edited, delays]
      exact follows.delayedPrecision
    immediatePrecision := by
      rw [preview_precision]
      exact follows.immediatePrecision
    debounced := by
      rw [Calculator.edited, delays]
      rfl
    immediately := by
      rw [preview_debouncer]
      exact immediately
    settled := by
      intro _ idle
      rw [pending] at idle
      contradiction
    awaited := by
      intro usable _
      rw [← follows.immediatePrecision] at usable
      exact preview_shows_itself usable }

private theorem submit (follows : Follows precision delayed immediate) (text : Text) :
    Follows precision (delayed.submit text).calculator
      (immediate.submit text).calculator := by
  cases edits : Operation.edits delayed.entry (.submit text) with
  | true =>
      obtain ⟨key, single, admitted⟩ := submit_of_edits edits
      rw [submit_of_admits single admitted,
        submit_of_admits single (follows.entry ▸ admitted), ← follows.entry]
      exact follows.edited (Entry.append delayed.entry key)
  | false =>
      rw [submit_of_not_edits edits, submit_of_not_edits (follows.entry ▸ edits)]
      exact follows

private theorem preview (follows : Follows precision delayed immediate) :
    Follows precision delayed.preview.calculator
      immediate.preview.calculator where
  entry := by
    rw [preview_entry, preview_entry]
    exact follows.entry
  delayedPrecision := by
    rw [preview_precision]
    exact follows.delayedPrecision
  immediatePrecision := by
    rw [preview_precision]
    exact follows.immediatePrecision
  debounced := by
    rw [preview_debouncer]
    exact follows.debounced
  immediately := by
    rw [preview_debouncer]
    exact follows.immediately
  settled := by
    intro usable _
    rw [← follows.delayedPrecision] at usable
    exact preview_readout_congr follows.entry follows.precisions
      (preview_answers usable)
  awaited := by
    intro usable _
    rw [← follows.immediatePrecision] at usable
    exact preview_shows_itself usable

private theorem clear (follows : Follows precision delayed immediate) :
    Follows precision delayed.clear.calculator immediate.clear.calculator where
  entry := rfl
  delayedPrecision := follows.delayedPrecision
  immediatePrecision := follows.immediatePrecision
  debounced := by
    show (delayed.debouncer.map Debouncer.cancel).isSome = true
    rw [Option.isSome_map]
    exact follows.debounced
  immediately := by
    show immediate.debouncer.map Debouncer.cancel = none
    rw [follows.immediately]
    rfl
  settled := fun _ _ => rfl
  awaited := by
    intro _ pending
    have idle : delayed.clear.calculator.isPending = false :=
      isPending_of_cancelled rfl
    rw [idle] at pending
    contradiction

private theorem finalize (follows : Follows precision delayed immediate) :
    Follows precision delayed.finalize.calculator
      immediate.finalize.calculator where
  entry := (finalize_congr follows.entry follows.precisions).1
  delayedPrecision := by
    rw [finalize_precision]
    exact follows.delayedPrecision
  immediatePrecision := by
    rw [finalize_precision]
    exact follows.immediatePrecision
  debounced := by
    rw [finalize_debouncer, Option.isSome_map]
    exact follows.debounced
  immediately := by
    rw [finalize_debouncer, follows.immediately]
    rfl
  settled := by
    intro usable _
    rw [← follows.delayedPrecision] at usable
    exact (finalize_congr follows.entry follows.precisions).2 usable
  awaited := by
    intro _ pending
    rw [isPending_of_cancelled (finalize_debouncer delayed)] at pending
    contradiction

private theorem withClock
    (follows : Follows precision delayed immediate)
    (reading : Binary64) :
    Follows precision (delayed.withClock reading) immediate where
  entry := follows.entry
  delayedPrecision := follows.delayedPrecision
  immediatePrecision := follows.immediatePrecision
  debounced := by
    show (delayed.debouncer.map _).isSome = true
    rw [Option.isSome_map]
    exact follows.debounced
  immediately := follows.immediately
  settled := by
    rw [isPending_withClock]
    exact follows.settled
  awaited := by
    rw [isPending_withClock]
    exact follows.awaited

/-- A preview that fires shows what the immediate calculator shows already. -/
theorem runTaken
    {taken : Option (Request Unit × Debouncer Unit)}
    (follows : Follows precision delayed immediate)
    (takes : delayed.Takes taken) :
    Follows precision (delayed.runTaken taken).calculator immediate := by
  cases taken with
  | none => exact follows
  | some pair =>
      obtain ⟨request, rest⟩ := pair
      obtain ⟨pending, restIdle⟩ := takes request rest rfl
      let released : Calculator := { delayed with debouncer := some rest }
      have idle : released.preview.calculator.isPending = false := by
        rw [isPending_of_debouncer_eq (preview_debouncer released)]
        exact restIdle
      show Follows precision released.preview.calculator immediate
      exact {
        entry := by
          rw [preview_entry]
          exact follows.entry
        delayedPrecision := by
          rw [preview_precision]
          exact follows.delayedPrecision
        immediatePrecision := follows.immediatePrecision
        debounced := by
          rw [preview_debouncer]
          rfl
        immediately := follows.immediately
        settled := by
          intro usable _
          rw [follows.awaited usable pending]
          rw [← follows.delayedPrecision] at usable
          have answers : ∃ display, released.preview.outcome = .ok display :=
            preview_answers usable
          exact preview_readout_congr follows.entry follows.precisions answers
        awaited := by
          intro _ stillPending
          rw [idle] at stillPending
          contradiction }

/-! ## Steps and runs -/

theorem after_keyed
    {operation : Operation}
    (follows : Follows precision delayed immediate)
    (isKeyed : operation.isKeyed = true) :
    Follows precision (delayed.after operation) (immediate.after operation) := by
  cases operation with
  | submit text => exact follows.submit text
  | backspace =>
      have same : immediate.after .backspace =
          (immediate.withEntry (Entry.eraseLast delayed.entry)).edited.calculator := by
        rw [follows.entry]
        rfl
      rw [same]
      exact follows.edited (Entry.eraseLast delayed.entry)
  | parentheses =>
      have same : immediate.after .parentheses =
          (immediate.withEntry
            (delayed.entry ++ Entry.parenthesisKeys delayed.entry)).edited.calculator := by
        rw [follows.entry]
        rfl
      rw [same]
      exact follows.edited (delayed.entry ++ Entry.parenthesisKeys delayed.entry)
  | clear => exact follows.clear
  | finalize => exact follows.finalize
  | preview => exact follows.preview
  | _ => contradiction

private theorem after_between
    {operation : Operation}
    (follows : Follows precision delayed immediate)
    (isBetween : operation.isBetween = true) :
    Follows precision (delayed.after operation) immediate := by
  cases operation with
  | setClock reading => exact follows.withClock reading
  | poll => exact follows.runTaken (takes_poll delayed)
  | flush => exact follows.runTaken (takes_flush delayed)
  | _ => contradiction

private theorem isKeyed_of_isBetween (operation : Operation)
    (isBetween : operation.isBetween = true) : operation.isKeyed = false := by
  cases operation with
  | setClock reading => rfl
  | poll => rfl
  | flush => rfl
  | _ => contradiction

private theorem afterAll
    {operations : List Operation}
    (follows : Follows precision delayed immediate)
    (allowed : ∀ operation ∈ operations,
      operation.isKeyed = true ∨ operation.isBetween = true) :
    Follows precision (delayed.afterAll operations)
      (immediate.afterAll (operations.filter Operation.isKeyed)) := by
  induction operations generalizing delayed immediate with
  | nil => exact follows
  | cons operation later inductionHypothesis =>
      have laterAllowed : ∀ each ∈ later,
          each.isKeyed = true ∨ each.isBetween = true :=
        fun each member => allowed each (List.mem_cons_of_mem operation member)
      rcases allowed operation (by simp) with isKeyed | isBetween
      · rw [List.filter_cons_of_pos isKeyed]
        exact inductionHypothesis (follows.after_keyed isKeyed) laterAllowed
      · rw [List.filter_cons_of_neg
          (by simp [isKeyed_of_isBetween operation isBetween])]
        exact inductionHypothesis (follows.after_between isBetween) laterAllowed

end Follows

/-! ## Polls after a clear or a result -/

def EditFree : Calculator → List Operation → Prop
  | _, [] => True
  | calculator, operation :: later =>
      operation.edits calculator.entry = false ∧
        EditFree (calculator.after operation) later

private theorem isPending_after
    {calculator : Calculator}
    {operation : Operation}
    (idle : calculator.isPending = false)
    (allowed : operation.isKeyed = true ∨ operation.isBetween = true)
    (refused : operation.edits calculator.entry = false) :
    (calculator.after operation).isPending = false := by
  cases operation with
  | submit text =>
      rw [show calculator.after (.submit text) = (calculator.submit text).calculator
        from rfl, submit_of_not_edits refused]
      exact idle
  | clear => exact isPending_of_cancelled rfl
  | finalize => exact isPending_of_cancelled (finalize_debouncer calculator)
  | preview =>
      exact (isPending_of_debouncer_eq (preview_debouncer calculator)).trans idle
  | setClock reading =>
      exact (isPending_withClock calculator reading).trans idle
  | poll =>
      show (calculator.runTaken _).calculator.isPending = false
      rw [(takes_poll calculator).runTaken_of_idle idle]
      exact idle
  | flush =>
      show (calculator.runTaken _).calculator.isPending = false
      rw [(takes_flush calculator).runTaken_of_idle idle]
      exact idle
  | backspace => contradiction
  | parentheses => contradiction
  | _ => rcases allowed with isKeyed | isBetween <;> contradiction

private theorem isPending_afterAll
    {calculator : Calculator}
    {operations : List Operation}
    (idle : calculator.isPending = false)
    (allowed : ∀ operation ∈ operations,
      operation.isKeyed = true ∨ operation.isBetween = true)
    (editFree : EditFree calculator operations) :
    (calculator.afterAll operations).isPending = false := by
  induction operations generalizing calculator with
  | nil => exact idle
  | cons operation later inductionHypothesis =>
      exact inductionHypothesis
        (isPending_after idle (allowed operation (by simp)) editFree.1)
        (fun each member => allowed each (List.mem_cons_of_mem operation member))
        editFree.2

private theorem isPending_of_stop
    {stop : Operation}
    (calculator : Calculator)
    (stops : stop = .clear ∨ stop = .finalize) :
    (calculator.after stop).isPending = false := by
  rcases stops with rfl | rfl
  · exact isPending_of_cancelled rfl
  · exact isPending_of_cancelled (finalize_debouncer calculator)

private theorem after_turn_of_idle
    {calculator : Calculator}
    {turn : Operation}
    (idle : calculator.isPending = false)
    (isTurn : turn = .poll ∨ turn = .flush) :
    calculator.after turn = calculator := by
  rcases isTurn with rfl | rfl
  · exact (takes_poll calculator).runTaken_of_idle idle
  · exact (takes_flush calculator).runTaken_of_idle idle

/-- A preview that ran shows what a preview of the entry shows. -/
theorem runTaken_of_ran
    {calculator : Calculator}
    {taken : Option (Request Unit × Debouncer Unit)}
    (ran : (calculator.runTaken taken).outcome = .ok true) :
    (calculator.runTaken taken).calculator.readout =
      calculator.preview.calculator.readout := by
  cases taken with
  | none => simp [runTaken] at ran
  | some pair =>
      let released : Calculator := { calculator with debouncer := some pair.2 }
      change released.preview.outcome.map (fun _ => true) = .ok true at ran
      cases answered : released.preview.outcome with
      | error fault =>
          rw [answered] at ran
          contradiction
      | ok display =>
          exact preview_readout_congr rfl rfl ⟨display, answered⟩

private theorem after_turn_entry
    {turn : Operation}
    (calculator : Calculator)
    (isTurn : turn = .poll ∨ turn = .flush) :
    (calculator.after turn).entry = calculator.entry := by
  rcases isTurn with rfl | rfl
  · exact runTaken_entry calculator _
  · exact runTaken_entry calculator _

private theorem after_turn_of_ran
    {calculator : Calculator}
    {turn : Operation}
    (isTurn : turn = .poll ∨ turn = .flush)
    (ran : (calculator.perform turn).outcome = .ok (.ran true)) :
    (calculator.after turn).readout = calculator.preview.calculator.readout := by
  have answer {outcome : Except PrecisionFault Bool}
      (mapped : outcome.map Answer.ran = .ok (.ran true)) : outcome = .ok true := by
    cases outcome with
    | error fault => contradiction
    | ok whether =>
        cases whether with
        | true => rfl
        | false => simp [Except.map] at mapped
  rcases isTurn with rfl | rfl
  · exact runTaken_of_ran (answer ran)
  · exact runTaken_of_ran (answer ran)

/-- A debounced calculator and an immediate one under the same operations have
the same entry after every step, and show the same whenever no preview is
pending.  After a clear or a result a poll changes nothing until the next edit,
and a poll that runs a preview shows that of the current entry. -/
theorem debounced_follows_immediate
    (precision : Int)
    (wait : Binary64)
    (operations : List Operation)
    (allowed : ∀ operation ∈ operations,
      operation.isKeyed = true ∨ operation.isBetween = true) :
    let delayed :=
      (new precision (some (Debouncer.new wait))).afterAll operations
    let immediate :=
      (new precision none).afterAll (operations.filter Operation.isKeyed)
    delayed.entry = immediate.entry ∧
      (0 ≤ precision → precision ≤ NumberFormat.precisionLimit →
        delayed.isPending = false →
          delayed.readout.text = immediate.readout.text) ∧
      (∀ stop turn later, (stop = .clear ∨ stop = .finalize) →
        (turn = .poll ∨ turn = .flush) →
        (∀ operation ∈ later,
          operation.isKeyed = true ∨ operation.isBetween = true) →
        EditFree (delayed.after stop) later →
          ((delayed.after stop).afterAll later).after turn =
            (delayed.after stop).afterAll later) ∧
      ∀ turn, (turn = .poll ∨ turn = .flush) →
        (delayed.perform turn).outcome = .ok (.ran true) →
          (delayed.after turn).entry = delayed.entry ∧
            (delayed.after turn).readout = delayed.preview.calculator.readout := by
  intro delayed immediate
  have follows : Follows precision delayed immediate :=
    (follows_new precision wait).afterAll allowed
  refine ⟨follows.entry, ?_, ?_, ?_⟩
  · intro nonnegative usable idle
    rw [follows.settled ⟨nonnegative, usable⟩ idle]
  · intro stop turn later stops isTurn laterAllowed editFree
    have idle := isPending_of_stop delayed stops
    exact after_turn_of_idle (isPending_afterAll idle laterAllowed editFree) isTurn
  · intro turn isTurn ran
    exact ⟨after_turn_entry delayed isTurn, after_turn_of_ran isTurn ran⟩

theorem debounced_follows_immediate_difference :
    let operations : List Operation :=
      [.submit ['7'], .poll, .submit ['−'], .setClock Binary64.zero, .submit ['9'],
        .flush]
    let delayed :=
      (new 12 (some (Debouncer.new Binary64.zero))).afterAll operations
    let immediate := (new 12 none).afterAll (operations.filter Operation.isKeyed)
    (∀ operation ∈ operations,
        operation.isKeyed = true ∨ operation.isBetween = true) ∧
      delayed.entry = immediate.entry ∧ delayed.isPending = false ∧
      delayed.readout.text = immediate.readout.text ∧
      immediate.readout.text = "-2".toList := by
  intro operations delayed immediate
  have allowed : ∀ operation ∈ operations,
      operation.isKeyed = true ∨ operation.isBetween = true := by
    decide
  have idle : delayed.isPending = false := by decide +kernel
  have follows := debounced_follows_immediate 12 Binary64.zero operations allowed
  exact ⟨allowed, follows.1, idle, follows.2.1 (by decide) (by decide) idle,
    by decide +kernel⟩

/-- At a precision that cannot be used, a preview that fires is lost, and an
error stays in sight that the immediate calculator has replaced on the way. -/
theorem readouts_part_at_unusable_precision :
    let operations : List Operation :=
      [.submit ['-'], .finalize, .backspace, .submit ['-'], .backspace, .flush]
    let delayed :=
      (new (2 ^ 31) (some (Debouncer.new Binary64.zero))).afterAll operations
    let immediate :=
      (new (2 ^ 31) none).afterAll (operations.filter Operation.isKeyed)
    (∀ operation ∈ operations,
        operation.isKeyed = true ∨ operation.isBetween = true) ∧
      delayed.isPending = false ∧
      delayed.readout.text = Readout.errorText ∧
      immediate.readout.text = Readout.noValueText ∧
      delayed.readout.text ≠ immediate.readout.text := by
  decide +kernel

end Calculator

end Keypad
