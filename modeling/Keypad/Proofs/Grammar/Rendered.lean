import Keypad.Proofs.Entry.Reading
import Keypad.Rendering

/-!
Lexemes that the grammar generates are a tree that was written down.

The three classes of the grammar are the three degrees to which a rendering
holds together, so a derivation is turned into a tree class by class.

Owns:
- the tightness of each class;
- the tree of an expression.

Main statement: `Grammar.IsExpression.rendered`.
-/

namespace Keypad

namespace Lexeme

private theorem eq_operator_of_token
    {lexeme : Lexeme}
    {op : Operator}
    (token : lexeme.token = .operator op) :
    lexeme = .operator op := by
  cases lexeme with
  | operator other => exact congrArg Lexeme.operator (Token.operator.inj token)
  | _ => contradiction

private theorem eq_opening_of_token
    {lexeme : Lexeme}
    (token : lexeme.token = .opening) :
    lexeme = .opening := by
  cases lexeme with
  | opening => rfl
  | _ => contradiction

private theorem eq_closing_of_token
    {lexeme : Lexeme}
    (token : lexeme.token = .closing) :
    lexeme = .closing := by
  cases lexeme with
  | closing => rfl
  | _ => contradiction

def NumeralsFormed (lexemes : List Lexeme) : Prop :=
  ∀ written, .numeral written ∈ lexemes → written.WellFormed

theorem AdmissibleAfter.numeralsFormed
    {previous : Option Lexeme}
    {lexemes : List Lexeme}
    (admissible : AdmissibleAfter previous lexemes) :
    NumeralsFormed lexemes := by
  induction lexemes generalizing previous with
  | nil =>
      intro written member
      contradiction
  | cons lexeme later inductionHypothesis =>
      intro written member
      rcases List.mem_cons.mp member with rfl | inLater
      · exact admissible.1.1
      · exact inductionHypothesis admissible.2 written inLater

private theorem NumeralsFormed.of_subset
    {part lexemes : List Lexeme}
    (formed : NumeralsFormed lexemes)
    (subset : part ⊆ lexemes) :
    NumeralsFormed part :=
  fun written member => formed written (subset member)

end Lexeme

def Rendered (tightness : Nat) (lexemes : List Lexeme) : Prop :=
  ∃ tree holds, tightness ≤ holds ∧ Renders tree holds lexemes

private theorem Rendered.of_le
    {looser tightness : Nat}
    {lexemes : List Lexeme}
    (rendered : Rendered tightness lexemes)
    (le : looser ≤ tightness) :
    Rendered looser lexemes := by
  obtain ⟨tree, holds, tight, renders⟩ := rendered
  exact ⟨tree, holds, Nat.le_trans le tight, renders⟩

/-- An operator between lexemes that hold together on both of its sides. -/
theorem Rendered.node
    {op : Operator}
    {tightness : Nat}
    {left right : List Lexeme}
    (precedence : op.precedence = tightness)
    (leftRendered : Rendered tightness left)
    (rightRendered : Rendered (tightness + 1) right) :
    Rendered tightness (left ++ .operator op :: right) := by
  subst precedence
  obtain ⟨leftTree, leftHolds, leftTight, leftRenders⟩ := leftRendered
  obtain ⟨rightTree, rightHolds, rightTight, rightRenders⟩ := rightRendered
  exact ⟨.node op leftTree rightTree, op.precedence, Nat.le_refl _,
    .node leftRenders leftTight rightRenders rightTight⟩

namespace Lexeme

/-- Lexemes whose tokens are joined by an operator are joined by it. -/
theorem exists_of_map_token_eq_node
    {lexemes : List Lexeme}
    {left right : List Token}
    {op : Operator}
    (tokens : lexemes.map token = left ++ .operator op :: right) :
    ∃ front back, lexemes = front ++ .operator op :: back ∧
      front.map token = left ∧ back.map token = right := by
  obtain ⟨front, rest, rfl, isLeft, behind⟩ := List.map_eq_append_iff.mp tokens
  obtain ⟨lexeme, back, rfl, isOperator, isRight⟩ := List.map_eq_cons_iff.mp behind
  obtain rfl := eq_operator_of_token isOperator
  exact ⟨front, back, rfl, isLeft, isRight⟩

private theorem exists_of_map_token_eq_group
    {lexemes : List Lexeme}
    {inner : List Token}
    (tokens : lexemes.map token = .opening :: inner ++ [.closing]) :
    ∃ middle, lexemes = .opening :: middle ++ [.closing] ∧ middle.map token = inner := by
  obtain ⟨front, rest, rfl, opened, closed⟩ := List.map_eq_append_iff.mp tokens
  obtain ⟨first, middle, rfl, isOpening, isInner⟩ := List.map_eq_cons_iff.mp opened
  obtain ⟨last, nothing, rfl, isClosing, isNil⟩ := List.map_eq_cons_iff.mp closed
  obtain rfl := eq_opening_of_token isOpening
  obtain rfl := eq_closing_of_token isClosing
  obtain rfl := List.map_eq_nil_iff.mp isNil
  exact ⟨middle, rfl, isInner⟩

end Lexeme

namespace Grammar

open Lexeme

-- The recursion is on the derivation; the lexemes follow its tokens.
mutual

theorem IsExpression.rendered {tokens : List Token} :
    IsExpression tokens → ∀ {lexemes : List Lexeme}, lexemes.map token = tokens →
      NumeralsFormed lexemes → Rendered 1 lexemes
  | .term isTerm, _, isTokens, formed =>
      (isTerm.rendered isTokens formed).of_le (by decide)
  | .sum isExpression additive isTerm, _, isTokens, formed => by
      obtain ⟨front, back, rfl, isLeft, isRight⟩ := exists_of_map_token_eq_node isTokens
      exact .node additive (isExpression.rendered isLeft (formed.of_subset (by simp)))
        (isTerm.rendered isRight (formed.of_subset (by simp)))

theorem IsTerm.rendered {tokens : List Token} :
    IsTerm tokens → ∀ {lexemes : List Lexeme}, lexemes.map token = tokens →
      NumeralsFormed lexemes → Rendered 2 lexemes
  | .factor isFactor, _, isTokens, formed =>
      (isFactor.rendered isTokens formed).of_le (by decide)
  | .product isTerm multiplicative isFactor, _, isTokens, formed => by
      obtain ⟨front, back, rfl, isLeft, isRight⟩ := exists_of_map_token_eq_node isTokens
      exact .node multiplicative (isTerm.rendered isLeft (formed.of_subset (by simp)))
        (isFactor.rendered isRight (formed.of_subset (by simp)))

theorem IsFactor.rendered {tokens : List Token} :
    IsFactor tokens → ∀ {lexemes : List Lexeme}, lexemes.map token = tokens →
      NumeralsFormed lexemes → Rendered atomTightness lexemes
  | .number value, lexemes, isTokens, formed => by
      obtain ⟨lexeme, nothing, rfl, isNumber, isNil⟩ := List.map_eq_cons_iff.mp isTokens
      obtain ⟨written, rfl⟩ := eq_numeral_of_token isNumber
      obtain rfl := List.map_eq_nil_iff.mp isNil
      exact ⟨.leaf written, atomTightness, Nat.le_refl _, .leaf (formed written (by simp))⟩
  | .group isExpression, _, isTokens, formed => by
      obtain ⟨middle, rfl, isInner⟩ := exists_of_map_token_eq_group isTokens
      obtain ⟨tree, holds, _, renders⟩ :=
        isExpression.rendered isInner (formed.of_subset (by simp))
      exact ⟨tree, atomTightness, Nat.le_refl _, .group renders⟩

end

end Grammar

end Keypad
