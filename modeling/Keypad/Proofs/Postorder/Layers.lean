import Keypad.Proofs.Postorder.Mismatch
import Mathlib.Data.List.Chain
import Mathlib.Data.List.Perm.Subperm

/-!
The layers of what waits in a yard.

An operator that arrives makes all leave that bind tighter or as tight, so the one that
it comes to wait on binds less tightly.  A group hides what it was opened on.  Since
there are two precedences, at most two operators wait directly above one another.

Owns:
- what may wait on what, kept by every step and so by every run;
- the operators that wait with no group between them;
- the number of all that waits, by the number of open groups.

Main statement: `Yard.waiting_layered`.

Does not own: which lists a yard can read.
-/

namespace Keypad

/-- An operator waits on one that binds less tightly; where a group is the upper or
the lower one, there is no condition. -/
def Waiting.MayWaitOn : Waiting → Waiting → Prop
  | .operator upper, .operator lower => lower.precedence < upper.precedence
  | _, _ => True

namespace Yard

open Nesting

/-- All that waits may wait on what is directly below. -/
def Layered (yard : Yard) : Prop :=
  yard.waiting.IsChain Waiting.MayWaitOn

/-! ## One token -/

private theorem layered_empty : empty.Layered :=
  List.IsChain.nil

private theorem Layered.release
    {yard : Yard}
    (layered : yard.Layered)
    (releases : Waiting → Bool) :
    (yard.release releases).Layered :=
  List.IsChain.suffix layered (List.dropWhile_suffix releases)

/-- An operator may wait on what it has not made leave. -/
private theorem mayWaitOn_released (op : Operator) (yard : Yard) :
    ∀ item ∈ (yard.release (Waiting.yieldsTo op)).waiting.head?,
      Waiting.MayWaitOn (.operator op) item := by
  intro item top
  have stays := List.head?_dropWhile_not (Waiting.yieldsTo op) yard.waiting
  rw [show (yard.waiting.dropWhile _).head? = some item from top] at stays
  cases item with
  | group => trivial
  | operator lower =>
      have keeps : lower.bindsBefore op = false := stays
      rw [← Bool.not_eq_true, Operator.bindsBefore_iff] at keeps
      exact Nat.lt_of_not_le keeps

private theorem layered_step
    {yard next : Yard}
    {token : Token}
    (layered : yard.Layered)
    (stepped : yard.step token = .ok next) :
    next.Layered := by
  rcases step_eq_ok stepped with number | operator | opening | closing
  · obtain ⟨value, _, rfl⟩ := number
    exact layered
  · obtain ⟨op, _, rfl⟩ := operator
    apply List.isChain_cons.mpr
    exact ⟨mayWaitOn_released op yard, layered.release (Waiting.yieldsTo op)⟩
  · obtain ⟨_, rfl⟩ := opening
    apply List.isChain_cons.mpr
    exact ⟨fun _ _ => trivial, layered⟩
  · obtain ⟨_, outer, waiting, rfl⟩ := closing
    have released := layered.release Waiting.isOperator
    rw [Layered, waiting] at released
    exact released.tail

/-! ## Lists of tokens -/

private theorem layered_run
    {yard next : Yard}
    {tokens : List Token}
    (layered : yard.Layered)
    (ran : yard.run tokens = .ok next) :
    next.Layered := by
  induction tokens generalizing yard with
  | nil =>
      cases ran
      exact layered
  | cons token later inductionHypothesis =>
      rw [run_cons] at ran
      obtain ⟨between, stepped, ranLater⟩ := ok_of_bind ran
      exact inductionHypothesis (layered_step layered stepped) ranLater

/-! ## The layers -/

/-- Operators that wait on each other, the top first, bind less and less tightly. -/
theorem precedence_decreases
    {operators : List Operator}
    (chain : (operators.map Waiting.operator).IsChain Waiting.MayWaitOn) :
    (operators.map Operator.precedence).Pairwise (· > ·) := by
  rw [← List.isChain_iff_pairwise, List.isChain_map]
  exact (List.isChain_map Waiting.operator).mp chain

/-- No precedence is there twice, and there are two of them. -/
private theorem length_le_two
    {operators : List Operator}
    (chain : (operators.map Waiting.operator).IsChain Waiting.MayWaitOn) :
    operators.length ≤ 2 := by
  have distinct : (operators.map Operator.precedence).Nodup :=
    (precedence_decreases chain).imp fun above => Nat.ne_of_gt above
  have oneOfTwo : operators.map Operator.precedence ⊆ [1, 2] := by
    intro precedence member
    obtain ⟨op, _, rfl⟩ := List.mem_map.mp member
    cases op <;> decide
  have counted := (List.subperm_of_subset distinct oneOfTwo).length_le
  rwa [List.length_map] at counted

/-- Each open group adds itself and two operators at most.  The induction takes the
operators that wait above `waiting` along, up to the next group. -/
private theorem length_le_of_isChain
    (operators : List Operator)
    {waiting : List Waiting}
    (chain : (operators.map Waiting.operator ++ waiting).IsChain Waiting.MayWaitOn) :
    operators.length + waiting.length ≤ 3 * waiting.count .group + 2 := by
  induction waiting generalizing operators with
  | nil =>
      rw [List.append_nil] at chain
      exact length_le_two chain
  | cons item lower inductionHypothesis =>
      cases item with
      | operator op =>
          have moved : ((operators ++ [op]).map Waiting.operator ++ lower).IsChain
              Waiting.MayWaitOn := by
            simpa using chain
          have bounded := inductionHypothesis (operators ++ [op]) moved
          rw [List.length_append, List.length_singleton] at bounded
          rw [List.length_cons, List.count_cons_of_ne (by simp)]
          omega
      | group =>
          have above := length_le_two chain.left_of_append
          have below := inductionHypothesis [] chain.right_of_append.tail
          rw [List.length_cons, List.count_cons_self]
          rw [List.length_nil] at below
          omega

/-- After each token that is read, the operators that wait with no group between them
bind tighter and tighter from the bottom to the top.  So there are at most two of them,
and all that waits is at most three for each open group and two more.  Tokens are read
as long as no group is closed in vain, however numbers and operators follow each
other. -/
theorem waiting_layered
    {tokens : List Token}
    (known : ∀ token ∈ tokens, ∀ symbol, token ≠ .strangeOperator symbol)
    {processed later : List Token}
    (split : tokens = processed ++ later) :
    (NeverUnderflows processed ↔ ∃ yard, empty.run processed = .ok yard) ∧
      ∀ yard, empty.run processed = .ok yard →
        (∀ operators : List Operator,
          operators.map Waiting.operator <:+: yard.waiting.reverse →
            (operators.map Operator.precedence).Pairwise (· < ·) ∧ operators.length ≤ 2) ∧
          yard.depth + closings processed = openings processed ∧
          yard.waiting.length ≤ 3 * yard.depth + 2 := by
  subst split
  have processedKnown :
      ∀ token ∈ processed, ∀ symbol, token ≠ .strangeOperator symbol :=
    fun token member => known token (List.mem_append_left later member)
  refine ⟨neverUnderflows_iff_run processedKnown, ?_⟩
  intro yard ran
  have layered : yard.Layered := layered_run layered_empty ran
  refine ⟨?_, depth_run_empty ran, ?_⟩
  · intro operators within
    have fromTop : operators.reverse.map Waiting.operator <:+: yard.waiting := by
      rw [← List.reverse_infix, ← List.map_reverse, List.reverse_reverse]
      exact within
    have chain := List.IsChain.infix layered fromTop
    have decreases := precedence_decreases chain
    rw [List.map_reverse, List.pairwise_reverse] at decreases
    exact ⟨decreases, by simpa using length_le_two chain⟩
  · have bounded := length_le_of_isChain [] layered
    rwa [List.length_nil, Nat.zero_add] at bounded

/-- The bound is reached in front of a parenthesis, and what stands behind it need not
be an expression. -/
theorem waiting_layered_full :
    let processed : List Token :=
      [.number .zero, .operator .add, .number .zero, .operator .mul, .opening,
        .number .zero, .operator .sub, .number .zero, .operator .rem]
    let tokens := processed ++ [.closing, .closing, .operator .div]
    let full : Yard :=
      ⟨[.number .zero, .number .zero, .number .zero, .number .zero],
        [.operator .rem, .operator .sub, .group, .operator .mul, .operator .add]⟩
    (∀ token ∈ tokens, ∀ symbol, token ≠ .strangeOperator symbol) ∧
      empty.run processed = .ok full ∧ full.depth = 1 ∧
      full.waiting.length = 3 * full.depth + 2 ∧
      ∀ operators : List Operator,
        operators.map Waiting.operator <:+: full.waiting.reverse →
          (operators.map Operator.precedence).Pairwise (· < ·) ∧ operators.length ≤ 2 := by
  intro processed tokens full
  have known : ∀ token ∈ tokens, ∀ symbol, token ≠ .strangeOperator symbol := by
    simp [tokens, processed]
  have ran : empty.run processed = .ok full := rfl
  obtain ⟨_, shape⟩ := waiting_layered known rfl
  obtain ⟨tightening, _, _⟩ := shape full ran
  exact ⟨known, ran, rfl, rfl, tightening⟩

end Yard

end Keypad
