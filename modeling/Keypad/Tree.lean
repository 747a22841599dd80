import Keypad.Token

/-!
Expression trees and what they mean.

Owns:
- trees of operators over any kind of leaf;
- the value of a tree of numbers, computed from the leaves to the root;
- the post-order of a tree as a list of tokens;
- what is reported for the value at the root.

Main statement: `postorder_length` (a list has one operator less than numbers).
-/

namespace Keypad

inductive Tree (Leaf : Type) where
  | leaf (content : Leaf)
  | node (op : Operator) (left right : Tree Leaf)
deriving DecidableEq

/-- The value at the root of an expression becomes its result when it is
finite; a negative zero is reported as zero. -/
def reportValue (value : Binary64) : Except Fault Binary64 :=
  if value.isFinite then .ok value.unsignZero else .error (.invalidResult value)

def applyOperator (op : Operator) (left right : Binary64) :
    Except Fault Binary64 :=
  match op.result? left right with
  | some value => .ok value
  | none => .error .divisionByZero

namespace Tree

def map {Leaf Other : Type} (f : Leaf → Other) : Tree Leaf → Tree Other
  | .leaf content => .leaf (f content)
  | .node op left right => .node op (left.map f) (right.map f)

/-- The value of a tree: first the left branch, then the right one, then the
operator between them. -/
def value : Tree Binary64 → Except Fault Binary64
  | .leaf number => .ok number
  | .node op left right => do
      let leftValue ← left.value
      let rightValue ← right.value
      applyOperator op leftValue rightValue

def result (tree : Tree Binary64) : Except Fault Binary64 := do
  let value ← tree.value
  reportValue value

/-- The tokens of a tree in post-order: both branches before their operator. -/
def postorder : Tree Binary64 → List Token
  | .leaf number => [.number number]
  | .node op left right =>
      left.postorder ++ right.postorder ++ [.operator op]

def leafCount {Leaf : Type} : Tree Leaf → Nat
  | .leaf _ => 1
  | .node _ left right => left.leafCount + right.leafCount

/-- A post-order list has one operator less than it has numbers. -/
theorem postorder_length (tree : Tree Binary64) :
    tree.postorder.length + 1 = 2 * tree.leafCount := by
  induction tree with
  | leaf => rfl
  | node op left right leftLength rightLength =>
      simp only [postorder, leafCount, List.length_append, List.length_singleton]
      omega

end Tree

end Keypad
