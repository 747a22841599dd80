import Keypad.Tree

/-!
The value of a tree when nothing stops its evaluation, and what stops it.

An evaluation is stopped only by a division by a zero.  Everywhere else the
operators are total, so a tree has a plain value, which counts when no such
division is reached.

Owns: the plain value, the test for a division by a zero, and the result of a
tree in these terms.
-/

namespace Keypad.Tree

/-- The value of a tree if every operator gives its plain result. -/
def plainValue : Tree Binary64 → Binary64
  | .leaf number => number
  | .node op left right => op.result left.plainValue right.plainValue

/-- Evaluating the tree reaches a division whose right value is a zero. -/
def dividesByZero : Tree Binary64 → Bool
  | .leaf _ => false
  | .node op left right =>
      left.dividesByZero || right.dividesByZero ||
        (op = .div && right.plainValue.isZero)

theorem applyOperator_eq (op : Operator) (left right : Binary64) :
    applyOperator op left right =
      if op = .div ∧ right.isZero = true then .error .divisionByZero
      else .ok (op.result left right) := by
  unfold applyOperator Operator.result?
  by_cases stops : op = .div ∧ right.isZero = true
  · rw [if_pos stops, if_pos stops]
  · rw [if_neg stops, if_neg stops]

theorem value_eq (tree : Tree Binary64) :
    tree.value =
      if tree.dividesByZero then .error .divisionByZero
      else .ok tree.plainValue := by
  induction tree with
  | leaf number => rfl
  | node op left right leftValue rightValue =>
      rw [value, leftValue, rightValue, dividesByZero, plainValue]
      cases left.dividesByZero with
      | true => rfl
      | false =>
          cases right.dividesByZero with
          | true => rfl
          | false =>
              show applyOperator op left.plainValue right.plainValue = _
              rw [applyOperator_eq]
              simp

/-- A division by a zero is reported before anything else, then a value that is
not finite. -/
theorem result_eq (tree : Tree Binary64) :
    tree.result =
      if tree.dividesByZero then .error .divisionByZero
      else if tree.plainValue.isFinite then .ok tree.plainValue.unsignZero
      else .error (.invalidResult tree.plainValue) := by
  rw [result, value_eq]
  cases tree.dividesByZero with
  | true => rfl
  | false => rfl

end Keypad.Tree
