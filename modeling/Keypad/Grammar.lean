import Keypad.Token

/-!
The grammar of expressions over tokens.

An expression is a sum of terms, a term a product of factors, and a factor a
number or an expression in parentheses.  Sums and products lean to the left.

Owns: the three classes of token lists.

Does not own: how a list is recognised; nothing here is run.
-/

namespace Keypad.Grammar

mutual

/-- Terms joined by additions and subtractions. -/
inductive IsExpression : List Token → Prop where
  | term {tokens : List Token} (isTerm : IsTerm tokens) : IsExpression tokens
  | sum {left right : List Token} {op : Operator}
      (isExpression : IsExpression left)
      (additive : op.precedence = 1)
      (isTerm : IsTerm right) :
      IsExpression (left ++ .operator op :: right)

/-- Factors joined by multiplications, divisions and remainders. -/
inductive IsTerm : List Token → Prop where
  | factor {tokens : List Token} (isFactor : IsFactor tokens) : IsTerm tokens
  | product {left right : List Token} {op : Operator}
      (isTerm : IsTerm left)
      (multiplicative : op.precedence = 2)
      (isFactor : IsFactor right) :
      IsTerm (left ++ .operator op :: right)

/-- A number, or an expression in parentheses. -/
inductive IsFactor : List Token → Prop where
  | number (value : Binary64) : IsFactor [.number value]
  | group {tokens : List Token} (isExpression : IsExpression tokens) :
      IsFactor (.opening :: tokens ++ [.closing])

end

theorem IsFactor.isExpression {tokens : List Token} (isFactor : IsFactor tokens) :
    IsExpression tokens :=
  .term (.factor isFactor)

theorem IsFactor.ne_nil {tokens : List Token} (isFactor : IsFactor tokens) :
    tokens ≠ [] := by
  cases isFactor <;> simp

theorem IsTerm.ne_nil {tokens : List Token} (isTerm : IsTerm tokens) :
    tokens ≠ [] := by
  cases isTerm with
  | factor isFactor => exact isFactor.ne_nil
  | product => simp

/-- Every expression has a token. -/
theorem IsExpression.ne_nil
    {tokens : List Token}
    (isExpression : IsExpression tokens) :
    tokens ≠ [] := by
  cases isExpression with
  | term isTerm => exact isTerm.ne_nil
  | sum => simp

end Keypad.Grammar
