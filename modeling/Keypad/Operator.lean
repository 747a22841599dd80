import Keypad.Binary64.Arithmetic

/-!
The five operators of an expression.

Owns:
- the operators with their symbols, precedences and associativity;
- which of two operators binds first;
- what an operator makes of two numbers.

Main statements: `ofSymbol?_eq_some_iff` (symbols identify operators),
`result?_eq_none_iff` (only dividing by a zero fails).
-/

namespace Keypad

inductive Operator where
  | add
  | sub
  | mul
  | div
  | rem
deriving DecidableEq, Repr

namespace Operator

def all : List Operator :=
  [.add, .sub, .mul, .div, .rem]

def symbol : Operator → Char
  | .add => '+'
  | .sub => '-'
  | .mul => '*'
  | .div => '/'
  | .rem => '%'

def ofSymbol? (character : Char) : Option Operator :=
  all.find? fun operator => operator.symbol = character

def isSymbol (character : Char) : Bool :=
  (ofSymbol? character).isSome

/-- Multiplication, division and remainder bind tighter than addition and
subtraction. -/
def precedence : Operator → Nat
  | .add | .sub => 1
  | .mul | .div | .rem => 2

/-- Of equal precedence, the operator on the left goes first. -/
def leftAssociative : Operator → Bool
  | _ => true

/-- An operator already waiting takes its operands before an incoming one when
it binds tighter, or as tight and the incoming one associates to the left. -/
def bindsBefore (waiting incoming : Operator) : Bool :=
  incoming.precedence < waiting.precedence ||
    (waiting.precedence = incoming.precedence && incoming.leftAssociative)

/-- What the operator makes of two numbers, without any failure. -/
def result : Operator → Binary64 → Binary64 → Binary64
  | .add => Binary64.add
  | .sub => Binary64.sub
  | .mul => Binary64.mul
  | .div => Binary64.div
  | .rem => Binary64.rem

/-- The result, unless a division by a zero of either sign is asked for.  A
remainder by zero does not fail; it is NaN. -/
def result? (operator : Operator) (left right : Binary64) : Option Binary64 :=
  if operator = .div ∧ right.isZero then none
  else some (operator.result left right)

/-! ## Laws -/

@[simp] theorem ofSymbol?_symbol (operator : Operator) :
    ofSymbol? operator.symbol = some operator := by
  cases operator <;> rfl

theorem ofSymbol?_eq_some_iff {character : Char} {operator : Operator} :
    ofSymbol? character = some operator ↔ operator.symbol = character := by
  constructor
  · intro found
    simpa using List.find?_some found
  · rintro rfl
    exact ofSymbol?_symbol operator

@[simp] theorem isSymbol_symbol (operator : Operator) :
    isSymbol operator.symbol = true := by
  simp [isSymbol]

theorem isSymbol_iff {character : Char} :
    isSymbol character = true ↔ ∃ operator : Operator, operator.symbol = character := by
  simp [isSymbol, Option.isSome_iff_exists, ofSymbol?_eq_some_iff]

theorem result?_eq_none_iff
    {operator : Operator}
    {left right : Binary64} :
    operator.result? left right = none ↔
      operator = .div ∧ right.isZero = true := by
  simp [result?]

theorem bindsBefore_iff (waiting incoming : Operator) :
    waiting.bindsBefore incoming = true ↔
      incoming.precedence ≤ waiting.precedence := by
  cases waiting <;> cases incoming <;> decide

end Operator

end Keypad
