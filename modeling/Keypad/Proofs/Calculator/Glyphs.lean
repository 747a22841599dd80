import Keypad.Proofs.Calculator.EntryKept
import Mathlib.Data.List.Forall2

/-!
Glyphs in what is typed and in what is shown.

A calculator replaces glyphs before it looks at what was typed, and puts them in only
for display.  So two sessions that differ in glyphs alone cannot be told apart, and
what is shown can be read back as the entry.

Owns:
- texts and operations that differ in glyphs;
- operations on such texts, and sessions of them;
- the entry behind what is shown.

Main statement: `glyphs_unnoticed`.
-/

namespace Keypad

namespace Text

/-- The second text has glyphs in place of some characters of the first. -/
def Respells (text respelled : Text) : Prop :=
  List.Forall₂
    (fun character other => other = character ∨ other = glyph character) text respelled

private theorem Respells.plain_eq
    {text respelled : Text}
    (respells : Respells text respelled) :
    plain respelled = plain text := by
  induction respells with
  | nil => rfl
  | cons replaced _ inductionHypothesis =>
      unfold plain at inductionHypothesis ⊢
      rw [List.map_cons, List.map_cons, inductionHypothesis]
      rcases replaced with rfl | rfl
      · rfl
      · rw [unglyph_glyph]

end Text

/-- The second operation is the first with glyphs in place of some of the characters
that are typed. -/
inductive Operation.Respells : Operation → Operation → Prop where
  | same (operation : Operation) : Respells operation operation
  | submit {text respelled : Text} (respells : Text.Respells text respelled) :
      Respells (.submit text) (.submit respelled)
  | press {key respelled : Text} (respells : Text.Respells key respelled) :
      Respells (.press key) (.press respelled)

namespace Calculator

/-! ## What is typed -/

private theorem submit_plain (calculator : Calculator) (text : Text) :
    calculator.submit (Text.plain text) = calculator.submit text := by
  unfold submit
  rw [Text.plain_plain]

private theorem typeAll_plain (calculator : Calculator) (text : Text) :
    calculator.typeAll (Text.plain text) = calculator.typeAll text := by
  induction text generalizing calculator with
  | nil => rfl
  | cons character rest inductionHypothesis =>
      have first : calculator.submit [Text.unglyph character] =
          calculator.submit [character] :=
        submit_plain calculator [character]
      show calculator.typeAll (Text.unglyph character :: Text.plain rest) = _
      unfold typeAll
      simp only [first, inductionHypothesis]

/-- The names of the operations are written without glyphs. -/
theorem action?_plain (key : Text) : action? (Text.plain key) = action? key := by
  have equals : Text.plain key = ['='] ↔ key = ['='] :=
    Text.plain_eq_iff rfl rfl
  have clears : Text.plain key = ['C'] ↔ key = ['C'] :=
    Text.plain_eq_iff rfl rfl
  have erases : Text.plain key = ['B', 'S'] ↔ key = ['B', 'S'] :=
    Text.plain_eq_iff rfl rfl
  have parenthesis : Text.plain key = ['(', ')'] ↔ key = ['(', ')'] :=
    Text.plain_eq_iff rfl rfl
  simp only [action?, equals, clears, erases, parenthesis]

private theorem press_plain (calculator : Calculator) (key : Text) :
    calculator.press (Text.plain key) = calculator.press key := by
  unfold press
  rw [action?_plain, typeAll_plain]

private theorem perform_of_respells
    {operation respelled : Operation}
    (respells : operation.Respells respelled)
    (calculator : Calculator) :
    calculator.perform respelled = calculator.perform operation := by
  cases respells with
  | same => rfl
  | @submit text other respells =>
      have same : calculator.submit other = calculator.submit text := by
        rw [← submit_plain, respells.plain_eq, submit_plain]
      rw [perform, perform, same]
  | @press key other respells =>
      have same : calculator.press other = calculator.press key := by
        rw [← press_plain, respells.plain_eq, press_plain]
      rw [perform, perform, same]

private theorem run_of_respells
    {operations respelled : List Operation}
    (respells : List.Forall₂ Operation.Respells operations respelled)
    (calculator : Calculator) :
    calculator.run respelled = calculator.run operations := by
  induction respells generalizing calculator with
  | nil => rfl
  | cons first _ inductionHypothesis =>
      rw [run, run, perform_of_respells first, inductionHypothesis]

/-! ## What is shown -/

private theorem plain_display
    {calculator : Calculator}
    (kept : Entry.WellKept calculator.entry) :
    Text.plain calculator.display.expression = calculator.entry := by
  rw [display, Text.plain_pretty]
  exact kept.plain

end Calculator

private theorem compute_pretty (text : Text) : compute (Text.pretty text) = compute text := by
  unfold compute Token.ofText Lexeme.ofText
  rw [Text.plain_pretty]

namespace Calculator

/-- Glyphs in place of typed characters change nothing that a session does, displays
or notes.  In every state that a new calculator reaches, the entry is what is shown
with its glyphs replaced, and both have the same result or the same fault. -/
theorem glyphs_unnoticed :
    (∀ (calculator : Calculator) (operations respelled : List Operation),
        List.Forall₂ Operation.Respells operations respelled →
          calculator.run respelled = calculator.run operations) ∧
      ∀ (precision : Int) (debouncer : Option (Debouncer Unit)) (calculator : Calculator),
        Reaches Operation.SetsNoEntry (new precision debouncer) calculator →
          Text.plain calculator.display.expression = calculator.entry ∧
            compute calculator.display.expression = compute calculator.entry := by
  refine ⟨fun calculator _ _ respells => run_of_respells respells calculator, ?_⟩
  intro precision debouncer calculator reached
  have kept : Entry.WellKept calculator.entry := wellKept_of_reaches .initial reached
  exact ⟨plain_display kept, compute_pretty calculator.entry⟩

/-- The second session types the glyphs that the first one shows.  The minus sign of
an exponent is shown as one too, and is not in the entry. -/
theorem glyphs_unnoticed_exponent :
    let operations : List Operation :=
      [.press "1/10000000".toList, .finalize, .submit "-".toList]
    let respelled : List Operation :=
      [.press "1÷10000000".toList, .finalize, .submit "−".toList]
    let start := new 12 none
    let final := start.afterAll operations
    start.run respelled = start.run operations ∧
      final.display.expression = "1e−7−".toList ∧
      Text.plain final.display.expression = final.entry ∧
      compute final.display.expression = compute final.entry := by
  intro operations respelled start final
  have pressed : Text.Respells "1/10000000".toList "1÷10000000".toList := by
    unfold Text.Respells
    decide
  have submitted : Text.Respells "-".toList "−".toList := by
    unfold Text.Respells
    decide
  have respells : List.Forall₂ Operation.Respells operations respelled :=
    .cons (.press pressed) (.cons (.same .finalize) (.cons (.submit submitted) .nil))
  have reached : Reaches Operation.SetsNoEntry start final := by
    apply Reaches.refl.afterAll operations
    simp [operations, Operation.SetsNoEntry]
  obtain ⟨unnoticed, recovered⟩ := glyphs_unnoticed
  exact ⟨unnoticed start operations respelled respells, by decide +kernel,
    recovered 12 none final reached⟩

end Calculator

end Keypad
