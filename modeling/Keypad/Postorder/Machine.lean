import Keypad.Tree

/-!
Evaluating tokens in post-order on a stack of numbers.

A number is pushed; an operator takes the two topmost numbers and pushes what it
makes of them, the lower one being its left operand.

Owns: the step for one token, the run over a list, and the evaluation of a
whole list, which has to leave exactly one number.

Main statements: `run_postorder` and `evaluate_postorder` (a tree's post-order
evaluates as the tree does).
-/

namespace Keypad

namespace Machine

/-- A stack of numbers, the top first. -/
abbrev Stack :=
  List Binary64

/-- The stack after one more token.  An operator without two operands is
reported as such, whatever it is. -/
def step (stack : Stack) (token : Token) : Except Fault Stack :=
  match token, stack with
  | .number value, _ => .ok (value :: stack)
  | .operator op, right :: left :: below => do
      let value ← applyOperator op left right
      return value :: below
  | .operator op, _ => .error (.missingOperand [op.symbol])
  | .strangeOperator symbol, _ :: _ :: _ => .error (.unknownOperator symbol)
  | .strangeOperator symbol, _ => .error (.missingOperand symbol)
  | .opening, _ => .error (.unexpectedParenthesis ['('])
  | .closing, _ => .error (.unexpectedParenthesis [')'])
  | .strangeParenthesis symbol, _ => .error (.unexpectedParenthesis symbol)

def run (stack : Stack) (tokens : List Token) : Except Fault Stack :=
  tokens.foldlM step stack

def conclude : Stack → Except Fault Binary64
  | [value] => reportValue value
  | stack => .error (.leftover stack.length)

def evaluate (tokens : List Token) : Except Fault Binary64 := do
  let stack ← run [] tokens
  conclude stack

/-! ## Laws -/

/-- A run over two lists is the run over the second after the first. -/
theorem run_append (stack : Stack) (front back : List Token) :
    run stack (front ++ back) =
      run stack front >>= fun between => run between back := by
  simp [run, List.foldlM_append]

@[simp] theorem run_nil (stack : Stack) : run stack [] = .ok stack :=
  rfl

theorem run_cons (stack : Stack) (token : Token) (tokens : List Token) :
    run stack (token :: tokens) =
      step stack token >>= fun next => run next tokens :=
  rfl

/-- A tree's post-order leaves the tree's value on top of whatever was there,
or fails as the tree does. -/
theorem run_postorder (tree : Tree Binary64) (stack : Stack) :
    run stack tree.postorder =
      tree.value >>= fun value => .ok (value :: stack) := by
  induction tree generalizing stack with
  | leaf => rfl
  | node op left right leftRun rightRun =>
      simp only [Tree.postorder, run_append, leftRun, Tree.value]
      cases left.value with
      | error => rfl
      | ok leftValue =>
          simp only [bind, Except.bind, rightRun]
          cases right.value with
          | error => rfl
          | ok rightValue =>
              simp [run_cons, step, bind, Except.bind, pure, Except.pure]
              split <;> simp_all

/-- Evaluating a tree's post-order is evaluating the tree. -/
theorem evaluate_postorder (tree : Tree Binary64) :
    evaluate tree.postorder = tree.result := by
  simp only [evaluate, run_postorder, Tree.result]
  cases tree.value <;> rfl

end Machine

end Keypad
