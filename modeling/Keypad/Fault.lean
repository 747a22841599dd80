import Keypad.Decimal.Shortest
import Keypad.Text.Quoted

/-!
What can be wrong with an expression.

A fault is a cause with the facts that explain it.  Its kind is what a user is
told first, its message what follows.

Owns:
- the kinds of faults, their families and their standard messages;
- the faults, with the kind and the message of each.
-/

namespace Keypad

/-- The kinds of faults.  The first three are families, of which no fault is
directly; an unknown operator belongs to no family, for no text contains one. -/
inductive FaultKind where
  | calculation
  | parsing
  | evaluation
  | invalidCharacter
  | invalidNumber
  | mismatchedParentheses
  | invalidExpression
  | divisionByZero
  | invalidResult
  | unknownOperator
deriving DecidableEq, Repr

namespace FaultKind

def parent? : FaultKind → Option FaultKind
  | .calculation => none
  | .parsing => some .calculation
  | .evaluation => some .calculation
  | .invalidCharacter => some .parsing
  | .invalidNumber => some .parsing
  | .mismatchedParentheses => some .parsing
  | .invalidExpression => some .evaluation
  | .divisionByZero => some .evaluation
  | .invalidResult => some .evaluation
  | .unknownOperator => none

/-- A kind is itself, its family, and the family of that. -/
def isA (kind ancestor : FaultKind) : Bool :=
  kind = ancestor || kind.parent? = some ancestor ||
    kind.parent?.bind parent? = some ancestor

def name : FaultKind → String
  | .calculation => "Calculation"
  | .parsing => "Parsing"
  | .evaluation => "Evaluation"
  | .invalidCharacter => "InvalidCharacter"
  | .invalidNumber => "InvalidNumber"
  | .mismatchedParentheses => "MismatchedParentheses"
  | .invalidExpression => "InvalidExpression"
  | .divisionByZero => "DivisionByZero"
  | .invalidResult => "InvalidResult"
  | .unknownOperator => "UnknownOperator"

/-- The message of a kind when nothing more is known. -/
def standardMessage : FaultKind → String
  | .invalidCharacter => "Invalid character"
  | .invalidNumber => "Invalid number"
  | .mismatchedParentheses => "Mismatched parentheses"
  | .divisionByZero => "Division by zero"
  | .invalidResult => "Invalid result"
  | .unknownOperator => "Unknown operator"
  | _ => "Invalid expression"

/-- The given detail, or the standard message in place of an empty one. -/
def messageFor (kind : FaultKind) (detail : String) : String :=
  if detail.isEmpty then kind.standardMessage else detail

end FaultKind

/-- The cause of a failure.  Positions count the characters of the expression
without its blanks. -/
inductive Fault where
  | invalidCharacter (character : Char) (position : Nat)
  | invalidNumber (literal : Text) (position : Nat)
  | unmatchedClosing
  | unmatchedOpening
  | unexpectedParenthesis (symbol : Text)
  | missingOperand (symbol : Text)
  | leftover (count : Nat)
  | divisionByZero
  | invalidResult (value : Binary64)
  | unknownOperator (symbol : Text)
deriving DecidableEq

namespace Fault

def counted (number : Nat) : String :=
  String.ofList (Decimal.digits number)

def shown (text : Text) : String :=
  String.ofList (Text.quoted text)

def tagged (className : String) (content : Text) : String :=
  className ++ "(" ++ String.ofList content ++ ")"

def parenthesisClass : String :=
  "paren"

def kind : Fault → FaultKind
  | .invalidCharacter _ _ => .invalidCharacter
  | .invalidNumber _ _ => .invalidNumber
  | .unmatchedClosing => .mismatchedParentheses
  | .unmatchedOpening => .mismatchedParentheses
  | .unexpectedParenthesis _ => .invalidExpression
  | .missingOperand _ => .invalidExpression
  | .leftover _ => .invalidExpression
  | .divisionByZero => .divisionByZero
  | .invalidResult _ => .invalidResult
  | .unknownOperator _ => .unknownOperator

/-- What is known about a fault beyond its kind; nothing for a division by
zero. -/
def detail : Fault → String
  | .invalidCharacter character position =>
      "Invalid character " ++ shown [character] ++ " at " ++ counted position
  | .invalidNumber literal position =>
      "Invalid number " ++ shown literal ++ " at " ++ counted position
  | .unmatchedClosing => "Unmatched ')'"
  | .unmatchedOpening => "Unmatched '('"
  | .unexpectedParenthesis symbol =>
      "Unexpected " ++ tagged parenthesisClass (Text.quoted symbol) ++
        " in postfix input"
  | .missingOperand symbol => "Missing operand for " ++ shown symbol
  | .leftover count =>
      "Expected one value, " ++ counted count ++ " left on the stack"
  | .divisionByZero => ""
  | .invalidResult value => "Invalid result " ++ String.ofList value.literal
  | .unknownOperator symbol => shown symbol

def message (fault : Fault) : String :=
  fault.kind.messageFor fault.detail

/-- No fault is of a family's own kind. -/
theorem kind_ne_family (fault : Fault) :
    fault.kind ≠ .calculation ∧ fault.kind ≠ .parsing ∧
      fault.kind ≠ .evaluation := by
  cases fault <;> simp [kind]

end Fault

end Keypad
