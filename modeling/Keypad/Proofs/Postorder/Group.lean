import Keypad.Proofs.Postorder.Conservation

/-!
Groups, from outside.

A group is reordered as if it stood alone: the yard does not look below the place
where the group was opened, and at its end it emits all that the group left
waiting.  The machine runs the result as if the numbers below were not there.

Owns:
- the yard inside a group, step by step and over a list;
- the reordering of a group, and of two groups joined by an operator;
- runs of the machine above other numbers.

Main statements: `Yard.run_group`, `Yard.reorder_joined_groups`,
`Machine.run_above`.
-/

namespace Keypad

namespace Yard

/-- The yard inside a group that was opened after `before` had been emitted and
while `outer` was waiting. -/
def inside (yard : Yard) (before : List Token) (outer : List Waiting) : Yard where
  emitted := yard.emitted ++ before
  waiting := yard.waiting ++ .group :: outer

variable {before : List Token} {outer : List Waiting}

private theorem release_inside
    {releases : Waiting → Bool}
    (keepsGroup : releases .group = false)
    (yard : Yard) :
    (yard.inside before outer).release releases =
      (yard.release releases).inside before outer := by
  have taken : (yard.waiting ++ .group :: outer).takeWhile releases =
      yard.waiting.takeWhile releases := by
    rw [List.takeWhile_append]
    split
    · rename_i whole
      rw [List.takeWhile_cons_of_neg (by simp [keepsGroup]), List.append_nil]
      exact ((List.takeWhile_prefix releases).eq_of_length whole).symm
    · rfl
  have left : (yard.waiting ++ .group :: outer).dropWhile releases =
      yard.waiting.dropWhile releases ++ .group :: outer := by
    rw [List.dropWhile_append]
    split
    · rename_i nothing
      rw [List.isEmpty_iff.mp nothing, List.nil_append,
        List.dropWhile_cons_of_neg (by simp [keepsGroup])]
    · rfl
  unfold release inside
  rw [taken, left, List.append_assoc]

private theorem close_inside
    {yard next : Yard}
    (closed : yard.close = .ok next) :
    (yard.inside before outer).close = .ok (next.inside before outer) := by
  obtain ⟨rest, waiting, rfl⟩ := close_eq_ok closed
  have released : (yard.inside before outer).release Waiting.isOperator =
      (yard.release Waiting.isOperator).inside before outer :=
    release_inside rfl yard
  unfold close
  simp only [released]
  rw [inside, waiting]
  rfl

/-- A step that succeeds in a yard succeeds inside a group, and it leaves alone
what is outside. -/
private theorem step_inside
    {yard next : Yard}
    {token : Token}
    (stepped : yard.step token = .ok next) :
    (yard.inside before outer).step token = .ok (next.inside before outer) := by
  cases token with
  | number value =>
      cases stepped
      rfl
  | operator op =>
      cases stepped
      have released : (yard.inside before outer).release (Waiting.yieldsTo op) =
          (yard.release (Waiting.yieldsTo op)).inside before outer :=
        release_inside rfl yard
      simp only [step, released]
      rfl
  | opening =>
      cases stepped
      rfl
  | closing => exact close_inside stepped
  | strangeParenthesis symbol => exact close_inside stepped
  | strangeOperator symbol => contradiction

private theorem run_inside
    {yard next : Yard}
    {tokens : List Token}
    (ran : yard.run tokens = .ok next) :
    (yard.inside before outer).run tokens = .ok (next.inside before outer) := by
  induction tokens generalizing yard with
  | nil =>
      cases ran
      rfl
  | cons token later inductionHypothesis =>
      rw [run_cons] at ran
      obtain ⟨between, stepped, ranLater⟩ := ok_of_bind ran
      rw [run_cons, step_inside stepped]
      exact inductionHypothesis ranLater

/-- The end of a group emits what the end of the list would emit. -/
theorem close_of_finish
    {yard : Yard}
    {output : List Token}
    (finished : yard.finish = .ok output) :
    (yard.inside before outer).close = .ok ⟨output.reverse ++ before, outer⟩ := by
  have entered : (yard.inside before outer).release Waiting.isOperator =
      (yard.release Waiting.isOperator).inside before outer :=
    release_inside rfl yard
  unfold close
  simp only [entered, release_of_finish finished]
  rfl

/-- A group adds the post-order of its tokens to what was emitted, in one piece. -/
theorem run_group
    {tokens output : List Token}
    (reordered : reorder tokens = .ok output)
    (before : List Token)
    (outer : List Waiting) :
    run ⟨before, outer⟩ (.opening :: tokens ++ [.closing]) =
      .ok ⟨output.reverse ++ before, outer⟩ := by
  obtain ⟨yard, ran, finished⟩ := ok_of_bind reordered
  have entered : (empty.inside before outer).run tokens =
      .ok (yard.inside before outer) :=
    run_inside ran
  rw [List.cons_append, run_cons]
  show run (empty.inside before outer) (tokens ++ [.closing]) = _
  rw [run_append, entered]
  show ((yard.inside before outer).close >>= fun closed => closed.run []) = _
  rw [close_of_finish finished]
  rfl

theorem reorder_group
    {tokens output : List Token}
    (reordered : reorder tokens = .ok output) :
    reorder (.opening :: tokens ++ [.closing]) = .ok output := by
  rw [reorder, empty, run_group reordered]
  show finish ⟨output.reverse ++ [], []⟩ = _
  rw [finish, if_neg (by simp)]
  simp [release]

/-- Two groups and the operator between them: the operator comes last. -/
theorem reorder_joined_groups
    {left right leftOutput rightOutput : List Token}
    (leftReordered : reorder left = .ok leftOutput)
    (rightReordered : reorder right = .ok rightOutput)
    (op : Operator) :
    reorder ((.opening :: left ++ [.closing]) ++
        .operator op :: (.opening :: right ++ [.closing])) =
      .ok (leftOutput ++ rightOutput ++ [.operator op]) := by
  rw [reorder, empty, run_append, run_group leftReordered]
  show (run _ (.operator op :: _) >>= finish) = _
  rw [run_cons]
  show (run ⟨leftOutput.reverse ++ [], [.operator op]⟩ _ >>= finish) = _
  rw [run_group rightReordered]
  show finish ⟨rightOutput.reverse ++ (leftOutput.reverse ++ []), [.operator op]⟩ = _
  rw [finish, if_neg (by simp)]
  simp [release, Waiting.token]

end Yard

namespace Machine

private theorem step_above
    {stack next : Stack}
    {token : Token}
    (stepped : step stack token = .ok next)
    (below : Stack) :
    step (stack ++ below) token = .ok (next ++ below) := by
  unfold step at stepped
  split at stepped
  · cases stepped
    rfl
  · rename_i op right left rest
    obtain ⟨value, applied, pushed⟩ := ok_of_bind stepped
    cases pushed
    show (applyOperator op left right >>= _) = _
    rw [applied]
    rfl
  all_goals contradiction

/-- A run that succeeds does the same above any numbers, and leaves them
alone. -/
theorem run_above
    {stack next : Stack}
    {tokens : List Token}
    (ran : run stack tokens = .ok next)
    (below : Stack) :
    run (stack ++ below) tokens = .ok (next ++ below) := by
  induction tokens generalizing stack with
  | nil =>
      cases ran
      rfl
  | cons token later inductionHypothesis =>
      rw [run_cons] at ran
      obtain ⟨between, stepped, ranLater⟩ := ok_of_bind ran
      rw [run_cons, step_above stepped below]
      exact inductionHypothesis ranLater

/-- Two lists that each leave one number, and an operator behind them. -/
theorem run_joined
    {left right : List Token}
    {leftValue rightValue : Binary64}
    (leftRan : run [] left = .ok [leftValue])
    (rightRan : run [] right = .ok [rightValue])
    (op : Operator) :
    run [] (left ++ right ++ [.operator op]) =
      applyOperator op leftValue rightValue >>= fun value => .ok [value] := by
  have rightAbove := run_above rightRan [leftValue]
  rw [List.append_assoc, run_append, leftRan]
  show run ([] ++ [leftValue]) _ = _
  rw [run_append, rightAbove]
  show (applyOperator op leftValue rightValue >>= _) >>= _ = _
  cases applyOperator op leftValue rightValue <;> rfl

end Machine

end Keypad
