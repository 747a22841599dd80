import Keypad.Fault
import Keypad.Operator

/-!
The tokens of an expression.

Owns:
- the type of tokens, numbers being already rounded to binary64;
- how a token is described;
- the tokens that an expression can contain.

A token with a symbol of no operator, or a parenthesis that is neither of the
two, never comes out of a text.  Such tokens are kept apart so that the later
stages can say what they do with them: a strange parenthesis closes a group,
and a strange operator is unknown.
-/

namespace Keypad

/-- A token of an expression, in infix or in post-order. -/
inductive Token where
  | number (value : Binary64)
  | operator (op : Operator)
  | opening
  | closing
  | strangeOperator (symbol : Text)
  | strangeParenthesis (symbol : Text)
deriving DecidableEq

namespace Token

def isKnown : Token → Bool
  | .strangeOperator _ => false
  | .strangeParenthesis _ => false
  | _ => true

def isParenthesis : Token → Bool
  | .opening => true
  | .closing => true
  | .strangeParenthesis _ => true
  | _ => false

/-- An operator token for a symbol, strange or not. -/
def ofOperatorSymbol (symbol : Text) : Token :=
  match symbol with
  | [character] =>
      match Operator.ofSymbol? character with
      | some op => .operator op
      | none => .strangeOperator symbol
  | _ => .strangeOperator symbol

/-- A parenthesis token for a symbol, strange or not. -/
def ofParenthesisSymbol (symbol : Text) : Token :=
  if symbol = ['('] then .opening
  else if symbol = [')'] then .closing
  else .strangeParenthesis symbol

def symbol : Token → Text
  | .number _ => []
  | .operator op => [op.symbol]
  | .opening => ['(']
  | .closing => [')']
  | .strangeOperator symbol => symbol
  | .strangeParenthesis symbol => symbol

def className : Token → String
  | .number _ => "num"
  | .operator _ => "op"
  | .strangeOperator _ => "op"
  | _ => Fault.parenthesisClass

/-- A token as it is described to a user: its class, and its literal or its
quoted symbol. -/
def description (token : Token) : String :=
  match token with
  | .number value => Fault.tagged token.className value.literal
  | _ => Fault.tagged token.className (Text.quoted token.symbol)

@[simp] theorem ofOperatorSymbol_symbol (op : Operator) :
    ofOperatorSymbol [op.symbol] = .operator op := by
  simp [ofOperatorSymbol]

end Token

end Keypad
