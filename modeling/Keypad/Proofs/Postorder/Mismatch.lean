import Keypad.Proofs.Postorder.Conservation

/-!
Parentheses that a reordering reports.

As many groups wait in a yard as have been opened and not been closed.  So a
closing parenthesis finds no group where more are closed than opened, and at the
end a group is left where more were opened than closed.

Owns:
- the step and the run that fail, and what they say about the nesting;
- the lists that can be read, whatever is open at their end;
- the three outcomes of a reordering, one for each kind of nesting.

Main statement: `reorder_mismatch`.
-/

namespace Keypad.Yard

open Nesting

/-- A group is closed in vain only where none is open. -/
private theorem close_eq_error
    {yard : Yard}
    {fault : Fault}
    (failed : yard.close = .error fault) :
    fault = .unmatchedClosing ∧ yard.depth = 0 := by
  simp only [close] at failed
  split at failed
  · rename_i nothing
    have released := depth_release (fun _ isOperator => isOperator) yard
    rw [depth, nothing] at released
    exact ⟨(Except.error.inj failed).symm, released.symm⟩
  · contradiction

private theorem step_eq_error
    {yard : Yard}
    {token : Token}
    {fault : Fault}
    (known : ∀ symbol, token ≠ .strangeOperator symbol)
    (failed : yard.step token = .error fault) :
    closes token = true ∧ fault = .unmatchedClosing ∧ yard.depth = 0 := by
  cases token with
  | number value => contradiction
  | operator op => contradiction
  | opening => contradiction
  | closing => exact ⟨rfl, close_eq_error failed⟩
  | strangeParenthesis symbol => exact ⟨rfl, close_eq_error failed⟩
  | strangeOperator symbol => exact absurd rfl (known symbol)

/-- A run stops behind the first tokens that close more groups than are open. -/
theorem run_eq_error
    {yard : Yard}
    {tokens : List Token}
    {fault : Fault}
    (known : ∀ token ∈ tokens, ∀ symbol, token ≠ .strangeOperator symbol)
    (failed : yard.run tokens = .error fault) :
    fault = .unmatchedClosing ∧
      ∃ front back, tokens = front ++ back ∧
        yard.depth + openings front < closings front := by
  induction tokens generalizing yard with
  | nil => contradiction
  | cons token later inductionHypothesis =>
      rw [run_cons] at failed
      rcases error_of_bind failed with stopped | ⟨next, stepped, failedLater⟩
      · obtain ⟨isClosing, isFault, flat⟩ :=
          step_eq_error (known token List.mem_cons_self) stopped
        have notOpening : opens token = false := by
          simp only [closes, Bool.and_eq_true] at isClosing
          simpa using isClosing.2
        refine ⟨isFault, [token], later, rfl, ?_⟩
        simp [openings, closings, isClosing, notOpening, flat]
      · obtain ⟨isFault, front, back, rfl, closed⟩ :=
          inductionHypothesis
            (fun other member => known other (List.mem_cons_of_mem token member))
            failedLater
        have counted := depth_step stepped
        refine ⟨isFault, token :: front, back, rfl, ?_⟩
        simp only [openings, closings, List.countP_cons] at *
        omega

/-- From the start, a run stops only where a group is closed in vain. -/
theorem run_empty_eq_error
    {tokens : List Token}
    {fault : Fault}
    (known : ∀ token ∈ tokens, ∀ symbol, token ≠ .strangeOperator symbol)
    (failed : empty.run tokens = .error fault) :
    fault = .unmatchedClosing ∧ ¬ NeverUnderflows tokens := by
  obtain ⟨isFault, front, back, split, closed⟩ := run_eq_error known failed
  refine ⟨isFault, fun neverUnderflows => ?_⟩
  have kept := neverUnderflows front back split
  omega

/-- Tokens of known operators are read as long as they close no group in vain. -/
theorem neverUnderflows_iff_run
    {tokens : List Token}
    (known : ∀ token ∈ tokens, ∀ symbol, token ≠ .strangeOperator symbol) :
    NeverUnderflows tokens ↔ ∃ yard, empty.run tokens = .ok yard := by
  constructor
  · intro neverUnderflows
    cases ran : empty.run tokens with
    | ok yard => exact ⟨yard, rfl⟩
    | error fault => exact absurd neverUnderflows (run_empty_eq_error known ran).2
  · intro ⟨yard, ran⟩
    exact neverUnderflows_of_run ran

private theorem finish_eq_error
    {yard : Yard}
    {fault : Fault}
    (failed : yard.finish = .error fault) :
    fault = .unmatchedOpening ∧ 0 < yard.depth := by
  unfold finish at failed
  split at failed
  · rename_i groupLeft
    exact ⟨(Except.error.inj failed).symm, List.count_pos_iff.mpr groupLeft⟩
  · contradiction

/-- The outcome of a reordering, by the nesting of the list. -/
theorem reorder_outcome
    {tokens : List Token}
    (known : ∀ token ∈ tokens, ∀ symbol, token ≠ .strangeOperator symbol) :
    ((∃ output, reorder tokens = .ok output) ∧ Balanced tokens) ∨
      (reorder tokens = .error .unmatchedClosing ∧ ¬ NeverUnderflows tokens) ∨
      (reorder tokens = .error .unmatchedOpening ∧ NeverUnderflows tokens ∧
        closings tokens < openings tokens) := by
  cases reordered : reorder tokens with
  | ok output => exact .inl ⟨⟨output, rfl⟩, reorder_balanced reordered⟩
  | error fault =>
      refine .inr ?_
      rcases error_of_bind reordered with stopped | ⟨yard, ran, unfinished⟩
      · obtain ⟨rfl, underflows⟩ := run_empty_eq_error known stopped
        exact .inl ⟨rfl, underflows⟩
      · obtain ⟨rfl, left⟩ := finish_eq_error unfinished
        have counted := depth_run_empty ran
        exact .inr ⟨rfl, neverUnderflows_of_run ran, by omega⟩

private theorem not_isParenthesis_of_reorder
    {tokens output : List Token}
    (reordered : reorder tokens = .ok output) :
    ∀ token ∈ output, token.isParenthesis = false := by
  intro token member
  have kept := (reorder_perm reordered).mem_iff.mp member
  simpa using (List.mem_filter.mp kept).2

/-- Mismatched parentheses are reported for the lists that are not balanced and
for no others.  A closing one is reported where, up to some place, more groups are
closed than opened; an opening one where that is nowhere so, but more groups are
opened than closed in all.  Every other list is reordered, and no parenthesis is
left in it. -/
theorem reorder_mismatch
    {tokens : List Token}
    (known : ∀ token ∈ tokens, ∀ symbol, token ≠ .strangeOperator symbol) :
    ((∃ fault, reorder tokens = .error fault ∧ fault.kind = .mismatchedParentheses) ↔
        ¬ Balanced tokens) ∧
      ((∃ fault, reorder tokens = .error fault ∧
          fault.kind = .mismatchedParentheses ∧ fault.message = "Unmatched ')'") ↔
        ∃ front back, tokens = front ++ back ∧ openings front < closings front) ∧
      ((∃ fault, reorder tokens = .error fault ∧
          fault.kind = .mismatchedParentheses ∧ fault.message = "Unmatched '('") ↔
        NeverUnderflows tokens ∧ closings tokens < openings tokens) ∧
      (Balanced tokens →
        ∃ output, reorder tokens = .ok output ∧
          ∀ token ∈ output, token.isParenthesis = false) := by
  have closingMessage : Fault.unmatchedClosing.message = "Unmatched ')'" := by decide
  have openingMessage : Fault.unmatchedOpening.message = "Unmatched '('" := by decide
  have underflow_iff :
      (∃ front back, tokens = front ++ back ∧ openings front < closings front) ↔
        ¬ NeverUnderflows tokens := by
    simp only [NeverUnderflows, not_forall, not_le, exists_prop]
  rw [underflow_iff]
  rcases reorder_outcome known with
    ⟨⟨output, reordered⟩, balanced⟩ | ⟨failed, underflows⟩ | ⟨failed, never, left⟩
  · have noParenthesis := not_isParenthesis_of_reorder reordered
    simpa [reordered, balanced, balanced.neverUnderflows, balanced.settled] using
      noParenthesis
  · have unbalanced : ¬ Balanced tokens := fun balanced =>
      underflows balanced.neverUnderflows
    simp [failed, unbalanced, underflows, closingMessage, Fault.kind]
  · have unbalanced : ¬ Balanced tokens := fun balanced =>
      Nat.ne_of_lt left balanced.settled
    simp [failed, unbalanced, never, left, openingMessage, Fault.kind]

/-- The second closing parenthesis is in vain; the group that is left open behind it
is not reported. -/
theorem reorder_mismatch_closing :
    let tokens : List Token :=
      [.opening, .number .zero, .closing, .closing, .operator .add, .opening, .opening]
    (∀ token ∈ tokens, ∀ symbol, token ≠ .strangeOperator symbol) ∧
      openings tokens = 3 ∧ closings tokens = 2 ∧
      ∃ fault, reorder tokens = .error fault ∧
        fault.kind = .mismatchedParentheses ∧ fault.message = "Unmatched ')'" := by
  intro tokens
  have known : ∀ token ∈ tokens, ∀ symbol, token ≠ .strangeOperator symbol := by
    simp [tokens]
  refine ⟨known, by decide, by decide, (reorder_mismatch known).2.1.mpr ?_⟩
  exact ⟨[.opening, .number .zero, .closing, .closing], _, rfl, by decide⟩

end Keypad.Yard
