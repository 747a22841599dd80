import Keypad.Calculator.Lemmas
import Keypad.Calculator.Session
import Keypad.Proofs.Computation
import Keypad.Proofs.Entry.Reading

/-!
The entries that a calculator can reach.

Each operation edits the entry, some number of times, or puts a result in its
place.  Both keep it well, so every reachable entry is.

Owns:
- what each operation does to the entry, as edits or as a result;
- the origin of an exponent in an entry;
- the laws of all reachable states.

An entry that is set from outside is kept as it is; such operations are left
out.

Main statement: `entry_wellKept`.
-/

namespace Keypad

/-- The operation does not set the entry from outside. -/
def Operation.SetsNoEntry (operation : Operation) : Prop :=
  ∀ entry, operation ≠ .setEntry entry

namespace Calculator

open Relation (ReflTransGen)

/-! ## Operations as edits -/

theorem submit_edits (calculator : Calculator) (text : Text) :
    ReflTransGen Entry.Edit calculator.entry
      (calculator.submit text).calculator.entry := by
  rcases submit_entry calculator text with kept | ⟨key, _, admitted, typed⟩
  · rw [kept]
  · rw [typed]
    exact .single (.type admitted)

private theorem typeAll_edits (calculator : Calculator) (text : Text) :
    ReflTransGen Entry.Edit calculator.entry
      (calculator.typeAll text).calculator.entry := by
  induction text generalizing calculator with
  | nil => exact .refl
  | cons character rest inductionHypothesis =>
      have first := submit_edits calculator [character]
      unfold typeAll
      simp only
      split
      · exact first
      · exact first.trans (inductionHypothesis _)

/-- A result that can be written takes the place of the entry; nothing else that
finalizing does touches it. -/
theorem finalize_entry (calculator : Calculator) :
    calculator.finalize.calculator.entry = calculator.entry ∨
      ∃ value, compute calculator.entry = .ok value ∧
        NumberFormat.format calculator.precision value =
          .ok calculator.finalize.calculator.entry := by
  cases computed : compute calculator.entry with
  | error fault =>
      rw [finalize_of_error computed]
      exact .inl rfl
  | ok value =>
      cases written : NumberFormat.format calculator.precision value with
      | ok text =>
          rw [finalize_of_ok computed written]
          exact .inr ⟨value, rfl, written⟩
      | error fault =>
          rw [finalize_of_unusable computed written]
          exact .inl rfl

/-- The keys that name an operation finalize the calculator or edit its entry. -/
theorem press_edits_or_finalizes (calculator : Calculator) (key : Text) :
    ReflTransGen Entry.Edit calculator.entry
        (calculator.press key).calculator.entry ∨
      (calculator.press key).calculator = calculator.finalize.calculator := by
  unfold press action?
  by_cases equals : key = ['=']
  · rw [if_pos equals]
    exact .inr rfl
  · rw [if_neg equals]
    by_cases clears : key = ['C']
    · rw [if_pos clears]
      exact .inl (.single (.clear calculator.entry))
    · rw [if_neg clears]
      by_cases erases : key = ['B', 'S']
      · rw [if_pos erases]
        have erased := backspace_entry calculator
        exact .inl (erased ▸ .single (.erase calculator.entry))
      · rw [if_neg erases]
        by_cases parenthesis : key = ['(', ')']
        · rw [if_pos parenthesis]
          have typed := parentheses_entry calculator
          exact .inl (typed ▸ .single (.parenthesis calculator.entry))
        · rw [if_neg parenthesis]
          exact .inl (typeAll_edits calculator key)

/-- An operation edits the entry, or it finalizes the calculator. -/
theorem after_edits_or_finalizes
    {operation : Operation}
    (calculator : Calculator)
    (isAllowed : operation.SetsNoEntry) :
    ReflTransGen Entry.Edit calculator.entry (calculator.after operation).entry ∨
      calculator.after operation = calculator.finalize.calculator := by
  cases operation with
  | submit text => exact .inl (submit_edits calculator text)
  | backspace =>
      have erased := backspace_entry calculator
      exact .inl (erased ▸ .single (.erase calculator.entry))
  | clear => exact .inl (.single (.clear calculator.entry))
  | finalize => exact .inr rfl
  | parentheses =>
      have typed := parentheses_entry calculator
      exact .inl (typed ▸ .single (.parenthesis calculator.entry))
  | preview =>
      have kept := preview_entry calculator
      exact .inl (kept ▸ .refl)
  | display => exact .inl .refl
  | press key => exact press_edits_or_finalizes calculator key
  | poll =>
      have kept := runTaken_entry calculator (calculator.debouncer.bind Debouncer.poll?)
      exact .inl (kept ▸ .refl)
  | flush =>
      have kept := runTaken_entry calculator (calculator.debouncer.bind Debouncer.flush?)
      exact .inl (kept ▸ .refl)
  | cancel => exact .inl .refl
  | setClock reading => exact .inl .refl
  | setEntry entry => exact absurd rfl (isAllowed entry)
  | setPrecision precision => exact .inl .refl

/-! ## Reachable entries -/

/-- An exponent in the entry was left by a result: an earlier calculator had a
result with an exponent, finalizing it led here, and the mantissa of that
result is still there. -/
def ExponentFromResult (start calculator : Calculator) : Prop :=
  ∃ (earlier : Calculator) (value : Binary64) (text : Text),
    Reaches Operation.SetsNoEntry start earlier ∧
      compute earlier.entry = .ok value ∧
      NumberFormat.isScientific value = true ∧
      NumberFormat.format earlier.precision value = .ok text ∧
      Reaches Operation.SetsNoEntry earlier.finalize.calculator calculator ∧
      Entry.mantissa calculator.entry = Entry.mantissa text

private theorem wellKept_after
    {calculator : Calculator}
    {operation : Operation}
    (kept : Entry.WellKept calculator.entry)
    (isAllowed : operation.SetsNoEntry) :
    Entry.WellKept (calculator.after operation).entry := by
  rcases after_edits_or_finalizes calculator isAllowed with edits | finalizes
  · exact kept.edits edits
  · rw [finalizes]
    rcases finalize_entry calculator with same | ⟨value, computed, written⟩
    · rw [same]
      exact kept
    · exact .of_format (isFinite_of_compute computed) written

theorem wellKept_of_reaches
    {start calculator : Calculator}
    (kept : Entry.WellKept start.entry)
    (reached : Reaches Operation.SetsNoEntry start calculator) :
    Entry.WellKept calculator.entry := by
  induction reached with
  | refl => exact kept
  | step _ isAllowed inductionHypothesis =>
      exact wellKept_after inductionHypothesis isAllowed

private theorem ExponentFromResult.after_edits
    {start calculator : Calculator}
    {operation : Operation}
    (fromResult : ExponentFromResult start calculator)
    (isAllowed : operation.SetsNoEntry)
    (same : Entry.mantissa (calculator.after operation).entry =
      Entry.mantissa calculator.entry) :
    ExponentFromResult start (calculator.after operation) := by
  obtain ⟨earlier, value, text, reached, computed, scientific, written, follows,
    mantissa⟩ := fromResult
  exact ⟨earlier, value, text, reached, computed, scientific, written,
    .step follows isAllowed, same.trans mantissa⟩

private theorem exponentFromResult_of_reaches
    {start calculator : Calculator}
    (noLetter : 'e' ∉ start.entry)
    (reached : Reaches Operation.SetsNoEntry start calculator)
    (letter : 'e' ∈ calculator.entry) :
    ExponentFromResult start calculator := by
  -- Only a result writes the letter; edits pass it on behind the same mantissa.
  induction reached with
  | refl => exact absurd letter noLetter
  | @step between operation reached isAllowed inductionHypothesis =>
      rcases after_edits_or_finalizes between isAllowed with edits | finalizes
      · obtain ⟨before, same⟩ := Entry.mantissa_edits edits letter
        exact (inductionHypothesis before).after_edits isAllowed same
      · rcases finalize_entry between with same | ⟨value, computed, written⟩
        · rw [finalizes, same] at letter
          exact (inductionHypothesis letter).after_edits isAllowed
            (by rw [finalizes, same])
        · rw [finalizes] at letter ⊢
          exact ⟨between, value, _, reached, computed,
            Entry.WellKept.isScientific_of_letter (isFinite_of_compute computed)
              written letter,
            written, .refl, rfl⟩

/-- Every entry that a new calculator reaches is well kept, so that reading it
stops only at a literal without a digit or at the letter of an exponent that a
result has left; once it is read, no two numbers stand side by side. -/
theorem entry_wellKept
    {precision : Int}
    {debouncer : Option (Debouncer Unit)}
    {calculator : Calculator}
    (reached : Reaches Operation.SetsNoEntry (new precision debouncer) calculator) :
    Entry.WellKept calculator.entry ∧
      (∀ fault, Token.ofText calculator.entry = .error fault →
        fault.kind = .invalidNumber ∨
          (∃ position, fault = .invalidCharacter 'e' position) ∧
            'e' ∈ calculator.entry ∧
            ExponentFromResult (new precision debouncer) calculator) ∧
      ∀ tokens, Token.ofText calculator.entry = .ok tokens →
        ∀ front first second back,
          tokens ≠ front ++ .number first :: .number second :: back := by
  have kept : Entry.WellKept calculator.entry :=
    wellKept_of_reaches .initial reached
  refine ⟨kept, ?_, ?_⟩
  · intro fault failed
    rcases kept.fault_of_error failed with kind | ⟨letter, isCharacter⟩
    · exact .inl kind
    · have noLetter : 'e' ∉ (new precision debouncer).entry := by
        show 'e' ∉ Entry.initial
        decide
      exact .inr ⟨isCharacter, letter,
        exponentFromResult_of_reaches noLetter reached letter⟩
  · intro tokens read front first second back
    exact kept.numbers_apart read front back first second

/-- An exponent that a result has left and that was shortened afterwards. -/
theorem entry_wellKept_exponent :
    let calculator := (new 12 none).afterAll
      [.press "1000000*1000001".toList, .finalize, .backspace, .backspace]
    Reaches Operation.SetsNoEntry (new 12 none) calculator ∧
      calculator.entry = "1.000001e+".toList ∧
      Entry.WellKept calculator.entry ∧
      ∃ fault, Token.ofText calculator.entry = .error fault ∧
        (fault.kind = .invalidNumber ∨
          (∃ position, fault = .invalidCharacter 'e' position) ∧
            'e' ∈ calculator.entry ∧
            ExponentFromResult (new 12 none) calculator) := by
  intro calculator
  have reached : Reaches Operation.SetsNoEntry (new 12 none) calculator := by
    apply Reaches.refl.afterAll
    simp [Operation.SetsNoEntry]
  have entry : calculator.entry = "1.000001e+".toList := by decide +kernel
  have unread : (Token.ofText calculator.entry).toOption = none := by
    rw [entry]
    decide +kernel
  obtain ⟨kept, faults, _⟩ := entry_wellKept reached
  refine ⟨reached, entry, kept, ?_⟩
  cases failed : Token.ofText calculator.entry with
  | ok tokens =>
      rw [failed] at unread
      contradiction
  | error fault => exact ⟨fault, rfl, faults fault failed⟩

end Calculator

end Keypad
