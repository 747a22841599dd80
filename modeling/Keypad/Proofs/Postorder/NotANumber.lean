import Keypad.Proofs.Binary64.Indeterminate
import Keypad.Proofs.Computation
import Keypad.Proofs.Tree.Outcome

/-!
Evaluations that come upon NaN.

A remainder by zero is no fault of its own, and neither are infinities that cancel
each other: they put NaN on the stack.  There it stays, for an operator that takes
NaN pushes it again, and the one number that is left in the end is never reported.
That is different for infinities, which a later division turns into zero.

Owns:
- the values that an evaluation pushes, and the operands that it takes;
- that NaN stays on the stack;
- that there is no result then.

Main statement: `no_result_of_nan`.
-/

namespace Keypad.Machine

/-- A value that the evaluation pushes: it is on top of the stack after one of the
tokens. -/
def Pushes (tokens : List Token) (value : Binary64) : Prop :=
  ∃ (front : List Token) (token : Token) (back : List Token) (stack below : Stack),
    tokens = front ++ token :: back ∧ run [] front = .ok stack ∧
      step stack token = .ok (value :: below)

/-- An operator that the evaluation applies, with its operands: they are on top of
the stack when its turn comes. -/
def Applies (tokens : List Token) (op : Operator) (left right : Binary64) : Prop :=
  ∃ (front back : List Token) (below : Stack),
    tokens = front ++ .operator op :: back ∧
      run [] front = .ok (right :: left :: below)

private theorem step_operator
    {op : Operator}
    {right : Binary64}
    (divides : ¬ (op = .div ∧ right.isZero = true))
    (left : Binary64)
    (below : Stack) :
    step (right :: left :: below) (.operator op) =
      .ok (op.result left right :: below) := by
  show (applyOperator op left right >>= fun value => .ok (value :: below)) = _
  rw [Tree.applyOperator_eq, if_neg divides]
  rfl

/-- What an operator leaves behind when it does not fail. -/
theorem step_operator_eq_ok
    {op : Operator}
    {stack next : Stack}
    (stepped : step stack (.operator op) = .ok next) :
    ∃ left right below, stack = right :: left :: below ∧
      ¬ (op = .div ∧ right.isZero = true) ∧ next = op.result left right :: below := by
  rcases stack with _ | ⟨right, _ | ⟨left, below⟩⟩
  · contradiction
  · contradiction
  · refine ⟨left, right, below, rfl, ?_⟩
    by_cases divides : op = .div ∧ right.isZero = true
    · obtain ⟨value, applied, _⟩ := ok_of_bind stepped
      rw [Tree.applyOperator_eq, if_pos divides] at applied
      contradiction
    · rw [step_operator divides] at stepped
      exact ⟨divides, (Except.ok.inj stepped).symm⟩

/-! ## NaN stays on the stack -/

private theorem nan_mem_of_step
    {stack next : Stack}
    {token : Token}
    (member : .nan ∈ stack)
    (stepped : step stack token = .ok next) :
    .nan ∈ next := by
  cases token with
  | number value =>
      obtain rfl : value :: stack = next := Except.ok.inj stepped
      exact List.mem_cons_of_mem value member
  | operator op =>
      obtain ⟨left, right, below, rfl, divides, rfl⟩ := step_operator_eq_ok stepped
      have isNaN := Operator.result_eq_nan_iff divides left
      -- NaN is one of the operands, or lies below them.
      rcases List.mem_cons.mp member with onRight | member
      · rw [isNaN.mpr (.inr (.inl onRight.symm))]
        exact List.mem_cons_self
      · rcases List.mem_cons.mp member with onLeft | member
        · rw [isNaN.mpr (.inl onLeft.symm)]
          exact List.mem_cons_self
        · exact List.mem_cons_of_mem _ member
  | strangeOperator symbol =>
      rcases stack with _ | ⟨right, _ | ⟨left, below⟩⟩
      · contradiction
      · contradiction
      · contradiction
  | opening => contradiction
  | closing => contradiction
  | strangeParenthesis symbol => contradiction

private theorem nan_mem_of_run
    {stack final : Stack}
    {tokens : List Token}
    (member : .nan ∈ stack)
    (ran : run stack tokens = .ok final) :
    .nan ∈ final := by
  induction tokens generalizing stack with
  | nil =>
      obtain rfl : stack = final := Except.ok.inj ran
      exact member
  | cons token later inductionHypothesis =>
      rw [run_cons] at ran
      obtain ⟨next, stepped, ranLater⟩ := ok_of_bind ran
      exact inductionHypothesis (nan_mem_of_step member stepped) ranLater

/-! ## There is no result -/

private theorem evaluate_of_pushes_nan
    {tokens : List Token}
    (pushes : Pushes tokens .nan) :
    ∃ fault, evaluate tokens = .error fault := by
  cases evaluated : evaluate tokens with
  | error fault => exact ⟨fault, rfl⟩
  | ok value =>
      obtain ⟨last, ran, finite, _⟩ := evaluate_eq_ok evaluated
      obtain ⟨front, token, back, stack, below, rfl, ranFront, stepped⟩ := pushes
      rw [run_append, ranFront] at ran
      have ranBack : run (.nan :: below) back = .ok [last] := by
        rw [← ran]
        show _ = (step stack token >>= fun next => run next back)
        rw [stepped]
        rfl
      have isLast := List.mem_singleton.mp (nan_mem_of_run List.mem_cons_self ranBack)
      rw [← isLast] at finite
      contradiction

private theorem pushes_nan_of_indeterminate
    {tokens : List Token}
    {op : Operator}
    {left right : Binary64}
    (applies : Applies tokens op left right)
    (indeterminate : op.Indeterminate left right) :
    Pushes tokens .nan := by
  have divides : ¬ (op = .div ∧ right.isZero = true) := by
    rintro ⟨rfl, isZero⟩
    cases indeterminate with
    | infinityByInfinity dividend divisor => cases right <;> contradiction
  have isNaN := (Operator.result_eq_nan_iff divides left).mpr (.inr (.inr indeterminate))
  obtain ⟨front, back, below, split, ran⟩ := applies
  refine ⟨front, .operator op, back, right :: left :: below, below, split, ran, ?_⟩
  rw [step_operator divides, isNaN]

/-- No result comes out of an evaluation that pushes NaN.  The indeterminate
operations push it, a remainder by zero among them, so that an expression has no
result in which one of those is computed. -/
theorem no_result_of_nan :
    (∀ tokens : List Token, Pushes tokens .nan →
      ∃ fault, evaluate tokens = .error fault) ∧
    (∀ (tokens : List Token) (op : Operator) (left right : Binary64),
      Applies tokens op left right → op.Indeterminate left right →
        Pushes tokens .nan) ∧
    ∀ (text : Text) (tokens postfixed : List Token) (left right : Binary64),
      Token.ofText text = .ok tokens → Yard.reorder tokens = .ok postfixed →
        Applies postfixed .rem left right → right.isZero = true →
          ∃ fault, compute text = .error fault := by
  refine ⟨fun _ => evaluate_of_pushes_nan, fun _ _ _ _ => pushes_nan_of_indeterminate, ?_⟩
  intro text tokens postfixed left right read reordered applies zero
  obtain ⟨fault, failed⟩ := evaluate_of_pushes_nan
    (pushes_nan_of_indeterminate applies (.remainderByZero left zero))
  refine ⟨fault, ?_⟩
  rw [compute_of_ofText read, computeTokens, reordered]
  exact failed

/-- The remainder is multiplied by zero and added to before the end is reached. -/
theorem no_result_of_nan_remainder :
    let text : Text := "1+5%0*0".toList
    let one : Binary64 := Numeral.number ⟨false, ['1'], none⟩
    let five : Binary64 := Numeral.number ⟨false, ['5'], none⟩
    let postfixed : List Token :=
      [.number one, .number five, .number .zero, .operator .rem, .number .zero,
        .operator .mul, .operator .add]
    (Token.ofText text >>= Yard.reorder) = .ok postfixed ∧
      Applies postfixed .rem five .zero ∧ Operator.Indeterminate .rem five .zero ∧
      Pushes postfixed .nan ∧ (∃ fault, evaluate postfixed = .error fault) ∧
      ∃ fault, compute text = .error fault := by
  intro text one five postfixed
  have stages : (Token.ofText text >>= Yard.reorder) = .ok postfixed :=
    eq_ok_of_toOption (by decide +kernel)
  have applies : Applies postfixed .rem five .zero :=
    ⟨[.number one, .number five, .number .zero], _, [one], rfl, rfl⟩
  have indeterminate : Operator.Indeterminate .rem five .zero :=
    .remainderByZero five rfl
  obtain ⟨noResult, pushesNaN, noComputation⟩ := no_result_of_nan
  have pushes := pushesNaN postfixed .rem five .zero applies indeterminate
  obtain ⟨tokens, read, reordered⟩ := ok_of_bind stages
  exact ⟨stages, applies, indeterminate, pushes, noResult postfixed pushes,
    noComputation text tokens postfixed five .zero read reordered applies rfl⟩

/-- An infinity may pass: zero divided by one is zero. -/
example :
    evaluate [.number .zero, .number (.infinite false), .operator .div] = .ok .zero := by
  decide +kernel

end Keypad.Machine
