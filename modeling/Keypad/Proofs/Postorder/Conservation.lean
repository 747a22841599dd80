import Keypad.Postorder.Machine
import Keypad.Postorder.Nesting
import Keypad.Postorder.Yard
import Keypad.Proofs.Outcome
import Mathlib.Data.List.TakeWhile

/-!
What a reordering and an evaluation conserve, for any list of tokens.

The yard moves numbers and operators about without losing one, and it counts
open groups.  The machine's stack grows by one with a number and shrinks by one
with an operator.

Owns:
- what a yard holds, and how many groups are open in it;
- the change of both with one token, and over a list;
- the height of the machine's stack over a list.

Main statements: `Yard.reorder_perm`, `Yard.reorder_balanced`,
`Machine.count_of_evaluate`.

Does not own: the order in which tokens are emitted.
-/

namespace Keypad

namespace Token

def isNumber : Token → Bool
  | .number _ => true
  | _ => false

def isOperator : Token → Bool
  | .operator _ => true
  | _ => false

end Token

namespace Yard

def held (yard : Yard) : List Token :=
  yard.emitted ++ (yard.waiting.filter Waiting.isOperator).map Waiting.token

def depth (yard : Yard) : Nat :=
  yard.waiting.count .group

/-! ## One token -/

theorem close_eq_ok {yard next : Yard} (closed : yard.close = .ok next) :
    ∃ outer, (yard.release Waiting.isOperator).waiting = .group :: outer ∧
      next = { yard.release Waiting.isOperator with waiting := outer } := by
  simp only [close] at closed
  split at closed
  · contradiction
  · rename_i item outer waiting
    have notOperator : item.isOperator = false := by
      have failing := List.head_dropWhile_not Waiting.isOperator
        (l := yard.waiting) (by rw [show yard.waiting.dropWhile _ = _ from waiting]; simp)
      simpa [show yard.waiting.dropWhile _ = _ from waiting] using failing
    cases item with
    | operator op => contradiction
    | group => exact ⟨outer, waiting, (Except.ok.inj closed).symm⟩

/-- Everything that a step can do. -/
theorem step_eq_ok
    {yard next : Yard}
    {token : Token}
    (stepped : yard.step token = .ok next) :
    (∃ value, token = .number value ∧
        next = { yard with emitted := .number value :: yard.emitted }) ∨
      (∃ op, token = .operator op ∧
        next =
          { yard.release (Waiting.yieldsTo op) with
            waiting :=
              .operator op :: (yard.release (Waiting.yieldsTo op)).waiting }) ∨
      (token = .opening ∧
        next = { yard with waiting := .group :: yard.waiting }) ∨
      (Nesting.closes token = true ∧
        ∃ outer, (yard.release Waiting.isOperator).waiting = .group :: outer ∧
          next = { yard.release Waiting.isOperator with waiting := outer }) := by
  cases token with
  | number value => exact .inl ⟨value, rfl, (Except.ok.inj stepped).symm⟩
  | operator op => exact .inr (.inl ⟨op, rfl, (Except.ok.inj stepped).symm⟩)
  | opening => exact .inr (.inr (.inl ⟨rfl, (Except.ok.inj stepped).symm⟩))
  | closing => exact .inr (.inr (.inr ⟨rfl, close_eq_ok stepped⟩))
  | strangeParenthesis symbol =>
      exact .inr (.inr (.inr ⟨rfl, close_eq_ok stepped⟩))
  | strangeOperator symbol => contradiction

section Release

variable {releases : Waiting → Bool}

theorem depth_release
    (operatorsOnly : ∀ item, releases item = true → item.isOperator = true)
    (yard : Yard) :
    (yard.release releases).depth = yard.depth := by
  have noGroup : (yard.waiting.takeWhile releases).count .group = 0 := by
    rw [List.count_eq_zero]
    intro member
    have released := List.all_eq_true.mp List.all_takeWhile _ member
    have isOperator := operatorsOnly _ released
    contradiction
  have split := congrArg (List.count Waiting.group) (release_split releases yard)
  rw [List.count_append, noGroup, Nat.zero_add] at split
  exact split

private theorem held_release
    (operatorsOnly : ∀ item, releases item = true → item.isOperator = true)
    (yard : Yard) :
    (yard.release releases).held.Perm yard.held := by
  have kept : (yard.waiting.takeWhile releases).filter Waiting.isOperator =
      yard.waiting.takeWhile releases := by
    rw [List.filter_eq_self]
    intro item member
    exact operatorsOnly item
      (List.all_eq_true.mp List.all_takeWhile item member)
  have split := congrArg (List.filter Waiting.isOperator)
    (release_split releases yard)
  rw [List.filter_append, kept] at split
  rw [held, held, ← split, List.map_append, ← List.append_assoc]
  apply List.Perm.append_right
  show (_ ++ yard.emitted).Perm (yard.emitted ++ _)
  exact (List.perm_append_comm).trans
    (List.Perm.append_left _ (List.reverse_perm _))

end Release

theorem yieldsTo_operator (incoming : Operator) (item : Waiting)
    (yields : item.yieldsTo incoming = true) : item.isOperator = true := by
  cases item with
  | operator op => rfl
  | group => contradiction

theorem depth_step
    {yard next : Yard}
    {token : Token}
    (stepped : yard.step token = .ok next) :
    next.depth + (if Nesting.closes token then 1 else 0) =
      yard.depth + (if Nesting.opens token then 1 else 0) := by
  rcases step_eq_ok stepped with number | operator | opening | closing
  · obtain ⟨value, rfl, rfl⟩ := number
    rfl
  · obtain ⟨op, rfl, rfl⟩ := operator
    have released := depth_release (yieldsTo_operator op) yard
    simpa [depth, Nesting.closes, Nesting.opens, Token.isParenthesis] using released
  · obtain ⟨rfl, rfl⟩ := opening
    simp [depth, Nesting.closes, Nesting.opens, Token.isParenthesis]
  · obtain ⟨closes, outer, waiting, rfl⟩ := closing
    have released := depth_release (fun _ isOperator => isOperator) yard
    have noOpening : Nesting.opens token = false := by
      simp only [Nesting.closes, Bool.and_eq_true] at closes
      simpa using closes.2
    rw [depth, waiting, List.count_cons_self] at released
    rw [closes, noOpening]
    exact released

private theorem held_step
    {yard next : Yard}
    {token : Token}
    (stepped : yard.step token = .ok next) :
    next.held.Perm
      ([token].filter (fun each => !each.isParenthesis) ++ yard.held) := by
  rcases step_eq_ok stepped with number | operator | opening | closing
  · obtain ⟨value, rfl, rfl⟩ := number
    exact List.Perm.refl _
  · obtain ⟨op, rfl, rfl⟩ := operator
    have released := held_release (yieldsTo_operator op) yard
    have moved := List.Perm.cons (Token.operator op) released
    exact List.perm_middle.trans moved
  · obtain ⟨rfl, rfl⟩ := opening
    exact List.Perm.refl _
  · obtain ⟨closes, outer, waiting, rfl⟩ := closing
    have isParenthesis : token.isParenthesis = true := by
      simp only [Nesting.closes, Bool.and_eq_true] at closes
      exact closes.1
    have released := held_release (fun _ isOperator => isOperator) yard
    rw [held, waiting] at released
    rw [List.filter_cons_of_neg (by simp [isParenthesis]), List.filter_nil,
      List.nil_append]
    exact released

/-! ## Lists of tokens -/

private theorem depth_run
    {yard next : Yard}
    {tokens : List Token}
    (ran : yard.run tokens = .ok next) :
    next.depth + Nesting.closings tokens =
      yard.depth + Nesting.openings tokens := by
  induction tokens generalizing yard with
  | nil =>
      cases ran
      rfl
  | cons token later inductionHypothesis =>
      rw [run_cons] at ran
      obtain ⟨between, stepped, ranLater⟩ := ok_of_bind ran
      have first := depth_step stepped
      have rest := inductionHypothesis ranLater
      simp only [Nesting.closings, Nesting.openings, List.countP_cons] at *
      omega

private theorem held_run
    {yard next : Yard}
    {tokens : List Token}
    (ran : yard.run tokens = .ok next) :
    next.held.Perm
      (tokens.filter (fun each => !each.isParenthesis) ++ yard.held) := by
  induction tokens generalizing yard with
  | nil =>
      cases ran
      exact List.Perm.refl _
  | cons token later inductionHypothesis =>
      rw [run_cons] at ran
      obtain ⟨between, stepped, ranLater⟩ := ok_of_bind ran
      have first := held_step stepped
      have rest := inductionHypothesis ranLater
      rw [← List.singleton_append, List.filter_append, List.append_assoc]
      apply rest.trans
      apply (List.Perm.append_left _ first).trans
      rw [← List.append_assoc, ← List.append_assoc]
      exact List.Perm.append_right _ List.perm_append_comm

/-- At the end only operators wait, and they are emitted. -/
theorem release_of_finish
    {yard : Yard}
    {output : List Token}
    (finished : yard.finish = .ok output) :
    yard.release Waiting.isOperator = ⟨output.reverse, []⟩ := by
  unfold finish at finished
  split at finished
  · contradiction
  · rename_i noGroup
    cases finished
    have operatorsOnly : ∀ item ∈ yard.waiting, item.isOperator = true := by
      intro item member
      cases item with
      | operator op => rfl
      | group => exact absurd member noGroup
    have everything : yard.waiting.takeWhile (fun _ => true) = yard.waiting :=
      List.takeWhile_eq_self_iff.mpr fun _ _ => rfl
    rw [List.reverse_reverse, release, release, everything,
      List.takeWhile_eq_self_iff.mpr operatorsOnly,
      List.dropWhile_eq_nil_iff.mpr operatorsOnly]

private theorem finish_eq_ok
    {yard : Yard}
    {output : List Token}
    (finished : yard.finish = .ok output) :
    yard.depth = 0 ∧ output.Perm yard.held := by
  have released := release_of_finish finished
  have depth := depth_release (fun _ isOperator => isOperator) yard
  have held := held_release (fun _ isOperator => isOperator) yard
  rw [released] at depth held
  refine ⟨depth.symm, (List.reverse_perm output).symm.trans ?_⟩
  simpa [Yard.held] using held

/-- A reordered list holds the numbers and the operators of the list, each as
often as before. -/
theorem reorder_perm
    {tokens output : List Token}
    (reordered : reorder tokens = .ok output) :
    output.Perm (tokens.filter fun each => !each.isParenthesis) := by
  obtain ⟨yard, ran, finished⟩ := ok_of_bind reordered
  have held := held_run ran
  rw [show empty.held = [] from rfl, List.append_nil] at held
  exact (finish_eq_ok finished).2.trans held

/-- From the start, what has been opened and not been closed is open. -/
theorem depth_run_empty
    {yard : Yard}
    {tokens : List Token}
    (ran : empty.run tokens = .ok yard) :
    yard.depth + Nesting.closings tokens = Nesting.openings tokens := by
  have counted := depth_run ran
  rwa [show empty.depth = 0 from rfl, Nat.zero_add] at counted

/-- What is read from the start never closes more groups than it has opened. -/
theorem neverUnderflows_of_run
    {yard : Yard}
    {tokens : List Token}
    (ran : empty.run tokens = .ok yard) :
    Nesting.NeverUnderflows tokens := by
  intro front back split
  rw [split, run_append] at ran
  obtain ⟨between, reached, _⟩ := ok_of_bind ran
  have counted := depth_run_empty reached
  omega

/-- Only lists with balanced parentheses can be reordered. -/
theorem reorder_balanced
    {tokens output : List Token}
    (reordered : reorder tokens = .ok output) :
    Nesting.Balanced tokens := by
  obtain ⟨yard, ran, finished⟩ := ok_of_bind reordered
  have counted := depth_run_empty ran
  rw [(finish_eq_ok finished).1] at counted
  exact ⟨neverUnderflows_of_run ran, by omega⟩

end Yard

namespace Machine

private theorem height_step
    {stack next : Stack}
    {token : Token}
    (stepped : step stack token = .ok next) :
    next.length + (if token.isOperator then 1 else 0) =
      stack.length + (if token.isNumber then 1 else 0) := by
  unfold step at stepped
  split at stepped
  · cases stepped
    rfl
  · rename_i op right left below
    obtain ⟨value, _, pushed⟩ := ok_of_bind stepped
    cases pushed
    rfl
  all_goals contradiction

private theorem height_run
    {stack next : Stack}
    {tokens : List Token}
    (ran : run stack tokens = .ok next) :
    next.length + tokens.countP Token.isOperator =
      stack.length + tokens.countP Token.isNumber := by
  induction tokens generalizing stack with
  | nil =>
      cases ran
      rfl
  | cons token later inductionHypothesis =>
      rw [run_cons] at ran
      obtain ⟨between, stepped, ranLater⟩ := ok_of_bind ran
      have first := height_step stepped
      have rest := inductionHypothesis ranLater
      simp only [List.countP_cons] at *
      omega

theorem evaluate_eq_ok
    {tokens : List Token}
    {value : Binary64}
    (evaluated : evaluate tokens = .ok value) :
    ∃ last, run [] tokens = .ok [last] ∧ last.isFinite = true ∧
      value = last.unsignZero := by
  obtain ⟨stack, ran, concluded⟩ := ok_of_bind evaluated
  unfold conclude at concluded
  split at concluded
  · rename_i last
    unfold reportValue at concluded
    split at concluded
    · rename_i finite
      exact ⟨last, ran, finite, (Except.ok.inj concluded).symm⟩
    · contradiction
  · contradiction

/-- A list that is evaluated has one operator less than it has numbers. -/
theorem count_of_evaluate
    {tokens : List Token}
    {value : Binary64}
    (evaluated : evaluate tokens = .ok value) :
    tokens.countP Token.isNumber = tokens.countP Token.isOperator + 1 := by
  obtain ⟨last, ran, _⟩ := evaluate_eq_ok evaluated
  have height := height_run ran
  rw [List.length_singleton, List.length_nil] at height
  omega

end Machine

end Keypad
