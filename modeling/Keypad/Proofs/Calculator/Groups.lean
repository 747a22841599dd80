import Keypad.Proofs.Calculator.EntryKept
import Keypad.Proofs.Entry.Groups

/-!
Groups that the parenthesis key opens and closes.

A user who leaves the parentheses to their key never closes a group that is not
open, whatever is erased, cleared or finalized in between, and closes the open ones
by pressing the key as often as there are such groups.

Owns:
- the operations that type no closing parenthesis by themselves;
- the entries that they lead to;
- the entry after pressing the parenthesis key several times.

Main statement: `groups_closable`.
-/

namespace Keypad

/-- The operation types no closing parenthesis as a character. -/
def Operation.typesNoClosing : Operation → Bool
  | .submit text => text ≠ [')']
  | .press _ => false
  | .setEntry _ => false
  | _ => true

namespace Calculator

/-! ## Every group is open before it is closed -/

private theorem neverUnderflows_submit
    {calculator : Calculator}
    {text : Text}
    (never : Entry.NeverUnderflows calculator.entry)
    (noClosing : text ≠ [')']) :
    Entry.NeverUnderflows (calculator.submit text).calculator.entry := by
  rcases submit_entry calculator text with kept | ⟨key, single, _, typed⟩
  · rw [kept]
    exact never
  · rw [typed]
    apply never.append
    rintro rfl
    exact noClosing ((Text.plain_eq_iff rfl rfl).mp single)

private theorem neverUnderflows_finalize
    {calculator : Calculator}
    (never : Entry.NeverUnderflows calculator.entry) :
    Entry.NeverUnderflows calculator.finalize.calculator.entry := by
  rcases finalize_entry calculator with kept | ⟨value, computed, written⟩
  · rw [kept]
    exact never
  · exact Entry.neverUnderflows_of_format (isFinite_of_compute computed) written

private theorem neverUnderflows_after
    {calculator : Calculator}
    {operation : Operation}
    (never : Entry.NeverUnderflows calculator.entry)
    (noClosing : operation.typesNoClosing = true) :
    Entry.NeverUnderflows (calculator.after operation).entry := by
  cases operation with
  | submit text => exact neverUnderflows_submit never (of_decide_eq_true noClosing)
  | backspace =>
      have erased := backspace_entry calculator
      exact erased ▸ never.eraseLast
  | clear => exact Entry.neverUnderflows_initial
  | finalize => exact neverUnderflows_finalize never
  | parentheses =>
      have typed := parentheses_entry calculator
      exact typed ▸ never.parenthesis
  | preview =>
      have kept := preview_entry calculator
      exact kept ▸ never
  | poll =>
      have kept := runTaken_entry calculator (calculator.debouncer.bind Debouncer.poll?)
      exact kept ▸ never
  | flush =>
      have kept := runTaken_entry calculator (calculator.debouncer.bind Debouncer.flush?)
      exact kept ▸ never
  | display => exact never
  | cancel => exact never
  | setClock reading => exact never
  | setPrecision precision => exact never
  | press key => contradiction
  | setEntry entry => contradiction

private theorem neverUnderflows_of_reaches
    {start calculator : Calculator}
    (never : Entry.NeverUnderflows start.entry)
    (reached : Reaches (·.typesNoClosing = true) start calculator) :
    Entry.NeverUnderflows calculator.entry := by
  induction reached with
  | refl => exact never
  | step _ noClosing inductionHypothesis =>
      exact neverUnderflows_after inductionHypothesis noClosing

/-! ## Closing the open groups -/

/-- Pressed behind an operand, the parenthesis key closes one open group at a time. -/
theorem afterAll_parentheses
    {calculator : Calculator}
    {last : Char}
    {presses : Nat}
    (ends : calculator.entry.getLast? = some last)
    (operand : Entry.isNumberKey last = true ∨ last = ')')
    (enough : Entry.closings calculator.entry + presses ≤
      Entry.openings calculator.entry) :
    (calculator.afterAll (List.replicate presses .parentheses)).entry =
      calculator.entry ++ List.replicate presses ')' := by
  induction presses generalizing calculator last with
  | zero => simp [afterAll]
  | succ presses inductionHypothesis =>
      have typed : (calculator.after .parentheses).entry = calculator.entry ++ [')'] := by
        have keys := parentheses_entry calculator
        rw [Entry.parenthesisKeys_of_operand ends operand, if_pos (by omega)] at keys
        exact keys
      have laterEnough : Entry.closings (calculator.after .parentheses).entry + presses ≤
          Entry.openings (calculator.after .parentheses).entry := by
        have closed := Entry.closings_append_closings calculator.entry 1
        have opened := Entry.openings_append_closings calculator.entry 1
        rw [List.replicate_one, ← typed] at closed opened
        omega
      have closed := inductionHypothesis (by rw [typed]; simp) (.inr rfl) laterEnough
      rw [typed, List.append_assoc] at closed
      exact closed

/-- With no group left open, the next press opens a factor. -/
theorem afterAll_parentheses_next
    {calculator : Calculator}
    {last : Char}
    {groups : Nat}
    (ends : calculator.entry.getLast? = some last)
    (operand : Entry.isNumberKey last = true ∨ last = ')')
    (counted : Entry.openings calculator.entry =
      Entry.closings calculator.entry + groups) :
    (calculator.afterAll (List.replicate (groups + 1) .parentheses)).entry =
      calculator.entry ++ List.replicate groups ')' ++ ['*', '('] := by
  have closed := afterAll_parentheses ends operand (Nat.le_of_eq counted.symm)
  obtain ⟨other, otherEnds, otherOperand⟩ :=
    Entry.operand_append_closings ends operand groups
  have noneOpen : ¬ Entry.closings (calculator.entry ++ List.replicate groups ')') <
      Entry.openings (calculator.entry ++ List.replicate groups ')') := by
    rw [Entry.closings_append_closings, Entry.openings_append_closings]
    omega
  rw [List.replicate_succ', afterAll_append]
  show (Calculator.parentheses _).calculator.entry = _
  rw [parentheses_entry, closed, Entry.parenthesisKeys_of_operand otherEnds otherOperand,
    if_neg noneOpen]

/-- Where the parentheses are left to their key, no group is closed that is not open,
up to any place in the entry.  Behind an operand, pressing the key as often as there
are open groups closes them, and no fewer presses do; the next one opens a factor. -/
theorem groups_closable
    {precision : Int}
    {debouncer : Option (Debouncer Unit)}
    {calculator : Calculator}
    (reached : Reaches (·.typesNoClosing = true) (new precision debouncer) calculator) :
    (∀ front back, calculator.entry = front ++ back →
        Entry.closings front ≤ Entry.openings front) ∧
      (∀ fault, compute calculator.entry = .error fault →
        fault.message ≠ "Unmatched ')'") ∧
      ∀ last groups, calculator.entry.getLast? = some last →
        (Entry.isNumberKey last = true ∨ last = ')') →
        Entry.openings calculator.entry = Entry.closings calculator.entry + groups →
          (∀ presses ≤ groups,
            let pressed := calculator.afterAll (List.replicate presses .parentheses)
            pressed.entry = calculator.entry ++ List.replicate presses ')' ∧
              (Entry.balanced pressed.entry = true ↔ presses = groups)) ∧
            (calculator.afterAll (List.replicate (groups + 1) .parentheses)).entry =
              calculator.entry ++ List.replicate groups ')' ++ ['*', '('] := by
  have never : Entry.NeverUnderflows calculator.entry :=
    neverUnderflows_of_reaches Entry.neverUnderflows_initial reached
  refine ⟨never, ?_, ?_⟩
  · intro fault failed isMessage
    obtain rfl := Fault.eq_unmatchedClosing_of_message isMessage
    exact compute_ne_unmatchedClosing never failed
  · intro last groups ends operand counted
    refine ⟨?_, afterAll_parentheses_next ends operand counted⟩
    intro presses few pressed
    have closed : pressed.entry = calculator.entry ++ List.replicate presses ')' :=
      afterAll_parentheses ends operand (by omega)
    refine ⟨closed, ?_⟩
    rw [closed, Entry.balanced, Entry.openings_append_closings,
      Entry.closings_append_closings, decide_eq_true_eq]
    omega

/-- Two groups, one of them in a factor that was opened, erased and opened again. -/
theorem groups_closable_nested :
    let calculator := (new 12 none).afterAll
      [.submit ['2'], .parentheses, .backspace, .parentheses, .submit ['7'], .submit ['−'],
        .parentheses, .submit ['.'], .submit ['5']]
    Reaches (·.typesNoClosing = true) (new 12 none) calculator ∧
      calculator.entry = "2*(7-(.5".toList ∧
      (calculator.afterAll (List.replicate 2 .parentheses)).entry =
        "2*(7-(.5))".toList ∧
      (calculator.afterAll (List.replicate 3 .parentheses)).entry =
        "2*(7-(.5))*(".toList ∧
      ∀ fault, compute calculator.entry = .error fault →
        fault.message ≠ "Unmatched ')'" := by
  intro calculator
  have reached : Reaches (·.typesNoClosing = true) (new 12 none) calculator := by
    apply Reaches.refl.afterAll
    decide
  have entry : calculator.entry = "2*(7-(.5".toList := by decide +kernel
  obtain ⟨_, faults, closing⟩ := groups_closable reached
  have ends : calculator.entry.getLast? = some '5' := by
    rw [entry]
    decide
  have counted : Entry.openings calculator.entry =
      Entry.closings calculator.entry + 2 := by
    rw [entry]
    decide
  obtain ⟨closed, next⟩ := closing '5' 2 ends (.inl (by decide)) counted
  refine ⟨reached, entry, ?_, ?_, faults⟩
  · rw [(closed 2 (Nat.le_refl 2)).1, entry]
    decide
  · rw [next, entry]
    decide

end Calculator

end Keypad
