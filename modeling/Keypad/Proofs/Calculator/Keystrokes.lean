import Keypad.Calculator.Lemmas
import Keypad.Calculator.Session
import Keypad.Proofs.Entry.Reading
import Keypad.Proofs.Entry.Typing

/-!
Texts that are typed in a session.

Each character is submitted as a key of its own.  As long as the entry admits
them the keys add up to a typed entry, and a key that it refuses might as well
not have been submitted: it is only noted.

Owns:
- the keys of a text as operations, and what they do to the entry;
- the keys that are noted as rejected;
- taking back accepted keys.

Main statements: `afterAll_keystrokes`, `acceptsAll_iff`,
`backspaces_undo_keystrokes`.
-/

namespace Keypad

def Operation.keystrokes (keys : Text) : List Operation :=
  keys.map fun key => .submit [key]

namespace Calculator

/-- A character is typed as the key that it is, or that its glyph stands for. -/
theorem after_character
    {calculator : Calculator}
    {character : Char}
    (admitted : Entry.admits calculator.entry (Text.unglyph character) = true) :
    (calculator.after (.submit [character])).entry =
        Entry.append calculator.entry (Text.unglyph character) ∧
      (calculator.after (.submit [character])).precision = calculator.precision := by
  have single : Text.plain [character] = [Text.unglyph character] := rfl
  show (calculator.submit [character]).calculator.entry = _ ∧
    (calculator.submit [character]).calculator.precision = _
  rw [submit_of_admits single admitted, edited_entry, edited_precision]
  exact ⟨rfl, rfl⟩

theorem after_keystroke
    {calculator : Calculator}
    {key : Char}
    (admitted : Entry.admits calculator.entry key = true) :
    (calculator.after (.submit [key])).entry = Entry.append calculator.entry key ∧
      (calculator.after (.submit [key])).precision = calculator.precision := by
  have isKey : Entry.isKey key = true := by
    simp only [Entry.admits, Bool.and_eq_true] at admitted
    exact admitted.1
  obtain ⟨plain, _⟩ := List.cons.inj (Entry.plain_key isKey)
  rw [← plain] at admitted
  have typed := after_character admitted
  rwa [plain] at typed

private theorem after_refused_keystroke
    {calculator : Calculator}
    {key : Char}
    (isKey : Entry.isKey key = true)
    (refused : Entry.admits calculator.entry key = false) :
    calculator.after (.submit [key]) = calculator := by
  show (calculator.submit [key]).calculator = calculator
  rw [submit_of_refused (Entry.plain_key isKey) refused]
  rfl

theorem afterAll_refused_keystroke
    {calculator : Calculator}
    {key : Char}
    (isKey : Entry.isKey key = true)
    (refused : Entry.admits calculator.entry key = false)
    (later : Text) :
    calculator.afterAll (Operation.keystrokes (key :: later)) =
      calculator.afterAll (Operation.keystrokes later) := by
  show (calculator.after (.submit [key])).afterAll (Operation.keystrokes later) = _
  rw [after_refused_keystroke isKey refused]

/-- Keys that can be typed on the entry are typed by submitting them. -/
theorem afterAll_keystrokes
    {calculator : Calculator}
    {keys typed : Text}
    (typing : Entry.type? calculator.entry keys = some typed) :
    (calculator.afterAll (Operation.keystrokes keys)).entry = typed ∧
      (calculator.afterAll (Operation.keystrokes keys)).precision =
        calculator.precision := by
  induction keys generalizing calculator with
  | nil => exact ⟨Option.some.inj typing, rfl⟩
  | cons key later inductionHypothesis =>
      rw [Entry.type?_cons] at typing
      split at typing
      · rename_i admitted
        obtain ⟨entry, precision⟩ := after_keystroke admitted
        rw [← entry] at typing
        obtain ⟨reached, kept⟩ := inductionHypothesis typing
        exact ⟨reached, kept.trans precision⟩
      · contradiction

/-! ## Rejected keys -/

end Calculator

def Effect.Rejects {Answer : Type} (effect : Effect Answer) : Prop :=
  ∃ key entry, .rejected key entry ∈ effect.notices

namespace Calculator

/-- Submitted one after another, none of the keys is rejected. -/
def AcceptsAll (calculator : Calculator) (keys : Text) : Prop :=
  ∀ effect ∈ calculator.run (Operation.keystrokes keys), ¬ effect.Rejects

private theorem not_rejects_preview (calculator : Calculator) :
    ¬ calculator.preview.Rejects := by
  rintro ⟨key, entry, noted⟩
  unfold preview at noted
  split at noted
  · split at noted
    · split at noted <;> contradiction
    · simp [reached] at noted
  · contradiction

private theorem not_rejects_edited (calculator : Calculator) :
    ¬ calculator.edited.Rejects := by
  unfold edited
  split
  · exact not_rejects_preview calculator
  · rintro ⟨key, entry, noted⟩
    contradiction

theorem submit_rejects_iff (calculator : Calculator) (key : Char) :
    (calculator.submit [key]).Rejects ↔
      Entry.admits calculator.entry (Text.unglyph key) = false := by
  have plain : Text.plain [key] = [Text.unglyph key] := rfl
  cases admitted : Entry.admits calculator.entry (Text.unglyph key) with
  | true =>
      rw [submit_of_admits plain admitted]
      exact iff_of_false (not_rejects_edited _) (by simp)
  | false =>
      rw [submit_of_refused plain admitted]
      exact iff_of_true ⟨_, _, List.mem_singleton.mpr rfl⟩ rfl

private theorem acceptsAll_cons (calculator : Calculator) (key : Char) (later : Text) :
    calculator.AcceptsAll (key :: later) ↔
      Entry.admits calculator.entry (Text.unglyph key) = true ∧
        (calculator.after (.submit [key])).AcceptsAll later := by
  have split : calculator.AcceptsAll (key :: later) ↔
      ¬ (calculator.submit [key]).Rejects ∧
        (calculator.after (.submit [key])).AcceptsAll later :=
    List.forall_mem_cons
  rw [split, submit_rejects_iff, Bool.not_eq_false]

/-- No key of a text without glyphs is rejected exactly when the text can be
typed on the entry. -/
theorem acceptsAll_iff
    {calculator : Calculator}
    {keys : Text}
    (plain : Text.plain keys = keys) :
    calculator.AcceptsAll keys ↔
      ∃ typed, Entry.type? calculator.entry keys = some typed := by
  induction keys generalizing calculator with
  | nil =>
      refine iff_of_true ?_ ⟨_, Entry.type?_nil _⟩
      intro effect member
      contradiction
  | cons key later inductionHypothesis =>
      obtain ⟨plainKey, plainLater⟩ := List.cons.inj plain
      rw [acceptsAll_cons, show Text.unglyph key = key from plainKey,
        inductionHypothesis plainLater, Entry.type?_cons]
      constructor
      · rintro ⟨admitted, typing⟩
        rw [if_pos admitted, ← (after_keystroke admitted).1]
        exact typing
      · intro typing
        split at typing
        · rename_i admitted
          rw [(after_keystroke admitted).1]
          exact ⟨admitted, typing⟩
        · simp at typing

/-! ## Taking keys back -/

/-- Keys that were accepted one after another are taken back by erasing as many
characters, also where they replaced the zero of an empty keypad. -/
theorem backspaces_undo_keystrokes
    {calculator : Calculator}
    {keys : Text}
    (nonempty : calculator.entry ≠ [])
    (accepted : calculator.AcceptsAll keys) :
    (calculator.afterAll
      (Operation.keystrokes keys ++ List.replicate keys.length .backspace)).entry =
        calculator.entry := by
  -- The first key is erased last, from the entry that it led to.
  induction keys generalizing calculator with
  | nil => rfl
  | cons key later inductionHypothesis =>
      obtain ⟨admitted, laterAccepted⟩ :=
        (acceptsAll_cons calculator key later).mp accepted
      have typed := (after_character admitted).1
      have laterNonempty : (calculator.after (.submit [key])).entry ≠ [] := by
        rw [typed]
        exact Entry.append_ne_nil calculator.entry (Text.unglyph key)
      have undone := inductionHypothesis laterNonempty laterAccepted
      have reorder :
          Operation.keystrokes (key :: later) ++
              List.replicate (key :: later).length .backspace =
            .submit [key] :: (Operation.keystrokes later ++
              List.replicate later.length .backspace) ++ [.backspace] := by
        rw [List.length_cons, List.replicate_succ']
        simp [Operation.keystrokes]
      let first := calculator.after (.submit [key])
      let between := Operation.keystrokes later ++ List.replicate later.length .backspace
      calc
        _ = Entry.eraseLast (first.afterAll between).entry := by
          rw [reorder, afterAll_append]
          exact backspace_entry (first.afterAll between)
        _ = Entry.eraseLast first.entry := by rw [undone]
        _ = Entry.eraseLast (Entry.append calculator.entry (Text.unglyph key)) := by
          rw [typed]
        _ = calculator.entry := Entry.eraseLast_append nonempty (Text.unglyph key)

/-- The first two keys replace the zero one after the other, and the fourth is
typed as a glyph. -/
theorem backspaces_undo_keystrokes_zero :
    let calculator := new 12 none
    let keys := "07.÷2".toList
    calculator.entry ≠ [] ∧ calculator.AcceptsAll keys ∧
      (calculator.afterAll (Operation.keystrokes keys)).entry = "7./2".toList ∧
      (calculator.afterAll
        (Operation.keystrokes keys ++ List.replicate keys.length .backspace)).entry =
          "0".toList := by
  intro calculator keys
  have nonempty : calculator.entry ≠ [] := by decide
  have accepted : calculator.AcceptsAll ['0', '7', '.', '÷', '2'] := by
    iterate 5 refine (acceptsAll_cons _ _ _).mpr ⟨by decide +kernel, ?_⟩
    intro effect member
    contradiction
  exact ⟨nonempty, accepted, by decide +kernel,
    backspaces_undo_keystrokes nonempty accepted⟩

end Calculator

end Keypad
