import Keypad.Decimal.Numeral
import Keypad.Proofs.Postorder.Conservation
import Keypad.Proofs.Tree.Outcome
import Mathlib.Data.List.Basic
import Mathlib.Data.List.Induction

/-!
Lists of numbers and operators, read as trees in post-order.

As far as no operator lacks operands, a list is the post-order of trees side by
side, and the machine's stack holds their values.  Where it is the post-order of
one tree it is evaluated as that tree is, and otherwise it has no result.

Owns:
- the tree of a post-order list, of which there is only one;
- how far a list can be read as trees;
- runs of the machine over trees side by side, and over any other list.

Main statements: `Tree.postorder_unique`, `Tree.forest_or_shortage`,
`Machine.evaluates_postorders_only`.
-/

namespace Keypad

namespace Tree

/-- The post-order of a tree can be told from whatever stands before it. -/
theorem postorder_unique
    {front back : List Token}
    {tree other : Tree Binary64}
    (same : front ++ tree.postorder = back ++ other.postorder) :
    front = back ∧ tree = other := by
  induction tree generalizing front back other with
  | leaf number =>
      cases other with
      | leaf otherNumber =>
          obtain ⟨fronts, last⟩ := List.append_inj' same rfl
          cases last
          exact ⟨fronts, rfl⟩
      | node op left right =>
          simp only [postorder, ← List.append_assoc] at same
          have last := (List.append_inj' same rfl).2
          cases last
  | node op left right leftHypothesis rightHypothesis =>
      cases other with
      | leaf otherNumber =>
          simp only [postorder, ← List.append_assoc] at same
          have last := (List.append_inj' same rfl).2
          cases last
      | node otherOp otherLeft otherRight =>
          simp only [postorder, ← List.append_assoc] at same
          obtain ⟨branches, last⟩ := List.append_inj' same rfl
          cases last
          obtain ⟨before, rfl⟩ := rightHypothesis branches
          obtain ⟨fronts, rfl⟩ := leftHypothesis before
          exact ⟨fronts, rfl⟩

/-- The tokens of trees side by side. -/
def forestOrder (forest : List (Tree Binary64)) : List Token :=
  forest.flatMap postorder

private theorem forestOrder_append (front back : List (Tree Binary64)) :
    forestOrder (front ++ back) = forestOrder front ++ forestOrder back :=
  List.flatMap_append

private theorem forestOrder_singleton (tree : Tree Binary64) :
    forestOrder [tree] = tree.postorder :=
  List.flatMap_singleton postorder tree

/-- Every list can be read as trees up to its end, or up to an operator that
finds fewer than two of them. -/
theorem forest_or_shortage
    {tokens : List Token}
    (known : ∀ token ∈ tokens, token.isNumber = true ∨ token.isOperator = true) :
    ∃ forest rest, tokens = forestOrder forest ++ rest ∧
      (rest = [] ∨
        ∃ op back, rest = .operator op :: back ∧ forest.length < 2) := by
  induction tokens using List.reverseRecOn with
  | nil => exact ⟨[], [], rfl, .inl rfl⟩
  | append_singleton front token inductionHypothesis =>
      obtain ⟨forest, rest, rfl, whole | ⟨op, back, rfl, short⟩⟩ :=
        inductionHypothesis fun member inFront => known member (by simp [inFront])
      · subst whole
        rw [List.append_nil]
        -- Behind whole trees a number is one more, and an operator joins two.
        cases token with
        | number value =>
            refine ⟨forest ++ [.leaf value], [], ?_, .inl rfl⟩
            rw [forestOrder_append, forestOrder_singleton, List.append_nil]
            rfl
        | operator op =>
            by_cases short : forest.length < 2
            · exact ⟨forest, [.operator op], rfl, .inr ⟨op, [], rfl, short⟩⟩
            · obtain ⟨shorter, right, rfl⟩ : ∃ shorter right, forest = shorter ++ [right] :=
                (List.eq_nil_or_concat' forest).resolve_left (by rintro rfl; simp at short)
              obtain ⟨before, left, rfl⟩ : ∃ before left, shorter = before ++ [left] :=
                (List.eq_nil_or_concat' shorter).resolve_left (by rintro rfl; simp at short)
              refine ⟨before ++ [.node op left right], [], ?_, .inl rfl⟩
              simp only [forestOrder_append, forestOrder_singleton, postorder,
                List.append_assoc, List.append_nil]
        | opening => simpa [Token.isNumber, Token.isOperator] using known .opening
        | closing => simpa [Token.isNumber, Token.isOperator] using known .closing
        | strangeOperator symbol =>
            simpa [Token.isNumber, Token.isOperator] using known (.strangeOperator symbol)
        | strangeParenthesis symbol =>
            simpa [Token.isNumber, Token.isOperator] using known (.strangeParenthesis symbol)
      · refine ⟨forest, .operator op :: (back ++ [token]), ?_, .inr ⟨op, _, rfl, short⟩⟩
        rw [List.append_assoc, List.cons_append]

end Tree

namespace Machine

open Keypad.Tree

/-- Trees side by side leave their values, unless one of them divides by a
zero. -/
theorem run_forest (forest : List (Tree Binary64)) (stack : Stack) :
    run stack (forestOrder forest) =
      if forest.any dividesByZero then .error .divisionByZero
      else .ok ((forest.map plainValue).reverse ++ stack) := by
  induction forest generalizing stack with
  | nil => rfl
  | cons tree later inductionHypothesis =>
      show run stack (tree.postorder ++ forestOrder later) = _
      rw [run_append, run_postorder, value_eq, List.any_cons]
      cases tree.dividesByZero with
      | true => rfl
      | false =>
          show run (tree.plainValue :: stack) (forestOrder later) = _
          rw [inductionHypothesis, List.map_cons, List.reverse_cons, List.append_assoc]
          rfl

/-! ## Divisions by a zero -/

/-- A division takes a zero from the stack, and no operator before it lacks
operands: behind whole trees a tree ends that divides by a value of zero. -/
def PopsZeroDivisor (tokens : List Token) : Prop :=
  ∃ (before : List (Tree Binary64)) (left right : Tree Binary64) (after : List Token),
    tokens = forestOrder before ++ (Tree.node .div left right).postorder ++ after ∧
      right.plainValue.isZero = true

private theorem PopsZeroDivisor.behind
    {tokens : List Token}
    (pops : PopsZeroDivisor tokens)
    (forest : List (Tree Binary64))
    (after : List Token) :
    PopsZeroDivisor (forestOrder forest ++ tokens ++ after) := by
  obtain ⟨before, left, right, rest, rfl, isZero⟩ := pops
  refine ⟨forest ++ before, left, right, rest ++ after, ?_, isZero⟩
  simp only [forestOrder_append, List.append_assoc]

private theorem popsZeroDivisor_of_dividesByZero
    {tree : Tree Binary64}
    (divides : tree.dividesByZero = true) :
    PopsZeroDivisor tree.postorder := by
  induction tree with
  | leaf number => contradiction
  | node op left right leftHypothesis rightHypothesis =>
      simp only [dividesByZero, Bool.or_eq_true, Bool.and_eq_true,
        decide_eq_true_eq] at divides
      rcases divides with (inLeft | inRight) | ⟨rfl, isZero⟩
      · have pops := (leftHypothesis inLeft).behind [] (right.postorder ++ [.operator op])
        simpa [forestOrder, postorder] using pops
      · have pops := (rightHypothesis inRight).behind [left] [.operator op]
        simpa [forestOrder, postorder] using pops
      · exact ⟨[], left, right, [], by simp [forestOrder], isZero⟩

private theorem evaluate_of_popsZeroDivisor
    {tokens : List Token}
    (pops : PopsZeroDivisor tokens) :
    evaluate tokens = .error .divisionByZero := by
  obtain ⟨before, left, right, after, rfl, isZero⟩ := pops
  have divides : (before ++ [Tree.node .div left right]).any dividesByZero = true := by
    simp [dividesByZero, isZero]
  have ran : run [] (forestOrder before ++ (Tree.node .div left right).postorder) =
      .error .divisionByZero := by
    rw [← forestOrder_singleton, ← forestOrder_append, run_forest, if_pos divides]
  rw [evaluate, run_append, ran]
  rfl

/-! ## Lists that are no tree -/

private theorem conclude_of_length
    {stack : Stack}
    (notOne : stack.length ≠ 1) :
    conclude stack = .error (.leftover stack.length) := by
  unfold conclude
  split
  · exact absurd rfl notOne
  · rfl

private theorem step_operator_of_short
    {stack : Stack}
    (short : stack.length < 2)
    (op : Operator) :
    step stack (.operator op) = .error (.missingOperand [op.symbol]) := by
  match stack with
  | [] => rfl
  | [_] => rfl
  | _ :: _ :: _ =>
      simp only [List.length_cons] at short
      omega

/-- A list that is no tree's post-order leaves too many or too few numbers, or
lacks operands. -/
theorem evaluate_of_no_tree
    {tokens : List Token}
    (known : ∀ token ∈ tokens, token.isNumber = true ∨ token.isOperator = true)
    (noTree : ∀ tree : Tree Binary64, tree.postorder ≠ tokens)
    (noZero : ¬ PopsZeroDivisor tokens) :
    ∃ fault, evaluate tokens = .error fault ∧ fault.kind = .invalidExpression := by
  obtain ⟨forest, rest, rfl, ending⟩ := forest_or_shortage known
  have divides : forest.any dividesByZero = false := by
    rw [List.any_eq_false]
    intro tree member divides
    obtain ⟨before, after, rfl⟩ := List.append_of_mem member
    have pops := (popsZeroDivisor_of_dividesByZero divides).behind before
      (forestOrder after ++ rest)
    apply noZero
    simpa [forestOrder] using pops
  have ran := run_forest forest []
  rw [if_neg (by simp [divides]), List.append_nil] at ran
  have height : (forest.map plainValue).reverse.length = forest.length := by simp
  rcases ending with rfl | ⟨op, back, rfl, short⟩
  · have notOne : forest.length ≠ 1 := by
      intro one
      obtain ⟨tree, rfl⟩ := List.length_eq_one_iff.mp one
      exact noTree tree (by rw [forestOrder_singleton, List.append_nil])
    refine ⟨.leftover forest.length, ?_, rfl⟩
    rw [List.append_nil, evaluate, ran]
    show conclude _ = _
    rw [conclude_of_length (by rwa [height]), height]
  · refine ⟨.missingOperand [op.symbol], ?_, rfl⟩
    rw [evaluate, run_append, ran]
    show (run _ (.operator op :: back) >>= conclude) = _
    rw [run_cons, step_operator_of_short (by rwa [height])]
    rfl

/-- The post-order of a tree is evaluated as the tree is, and it is no other
tree's.  A list of numbers and operators that is no tree's post-order has no
result: a division by a zero is reported when the zero is taken from the stack
before an operator lacks operands, and the list itself otherwise. -/
theorem evaluates_postorders_only
    {tokens : List Token}
    (known : ∀ token ∈ tokens, token.isNumber = true ∨ token.isOperator = true) :
    (∀ tree : Tree Binary64, tree.postorder = tokens →
        evaluate tokens =
          if tree.dividesByZero then .error .divisionByZero
          else if tree.plainValue.isFinite then .ok tree.plainValue.unsignZero
          else .error (.invalidResult tree.plainValue)) ∧
      (∀ tree other : Tree Binary64,
        tree.postorder = tokens → other.postorder = tokens → tree = other) ∧
      ((∀ tree : Tree Binary64, tree.postorder ≠ tokens) →
        (PopsZeroDivisor tokens → evaluate tokens = .error .divisionByZero) ∧
        (¬ PopsZeroDivisor tokens →
          ∃ fault, evaluate tokens = .error fault ∧ fault.kind = .invalidExpression)) := by
  refine ⟨?_, ?_, fun noTree => ⟨evaluate_of_popsZeroDivisor, evaluate_of_no_tree known noTree⟩⟩
  · rintro tree rfl
    rw [evaluate_postorder, result_eq]
  · rintro tree other rfl same
    have behindNothing : [] ++ tree.postorder = [] ++ other.postorder := by simp [same]
    exact (postorder_unique behindNothing).2

/-- The divisor is taken before the addition lacks an operand. -/
theorem evaluates_postorders_only_quotient :
    let one : Binary64 := Numeral.number ⟨false, ['1'], none⟩
    let tokens : List Token :=
      [.number one, .number .zero, .operator .div, .operator .add]
    (∀ token ∈ tokens, token.isNumber = true ∨ token.isOperator = true) ∧
      (∀ tree : Tree Binary64, tree.postorder ≠ tokens) ∧
      PopsZeroDivisor tokens ∧
      evaluate tokens = .error .divisionByZero := by
  intro one tokens
  have known : ∀ token ∈ tokens, token.isNumber = true ∨ token.isOperator = true := by
    simp [tokens, Token.isNumber, Token.isOperator]
  have noTree : ∀ tree : Tree Binary64, tree.postorder ≠ tokens := by
    intro tree same
    have length := postorder_length tree
    rw [same, show tokens.length = 4 from rfl] at length
    omega
  have pops : PopsZeroDivisor tokens :=
    ⟨[], .leaf one, .leaf .zero, [.operator .add], rfl, rfl⟩
  exact ⟨known, noTree, pops, ((evaluates_postorders_only known).2.2 noTree).1 pops⟩

end Machine

end Keypad
