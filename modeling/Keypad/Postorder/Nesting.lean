import Keypad.Token

/-!
The nesting of groups in a list of tokens.

Owns: the counts of opened and closed groups, and balanced lists.  A parenthesis
that is not the opening one closes a group, strange ones included.
-/

namespace Keypad.Nesting

def opens (token : Token) : Bool :=
  token = .opening

def closes (token : Token) : Bool :=
  token.isParenthesis && !opens token

def openings (tokens : List Token) : Nat :=
  tokens.countP opens

def closings (tokens : List Token) : Nat :=
  tokens.countP closes

/-- At no point have more groups been closed than opened. -/
def NeverUnderflows (tokens : List Token) : Prop :=
  ∀ front back, tokens = front ++ back → closings front ≤ openings front

structure Balanced (tokens : List Token) : Prop where
  neverUnderflows : NeverUnderflows tokens
  settled : closings tokens = openings tokens

@[simp] theorem openings_append (front back : List Token) :
    openings (front ++ back) = openings front + openings back := by
  simp [openings]

@[simp] theorem closings_append (front back : List Token) :
    closings (front ++ back) = closings front + closings back := by
  simp [closings]

end Keypad.Nesting
