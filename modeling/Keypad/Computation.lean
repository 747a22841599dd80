import Keypad.Lexeme
import Keypad.Postorder.Machine
import Keypad.Postorder.Yard

/-!
Computing an expression: its tokens are put into post-order and evaluated.

Owns: the result of an expression's text, or the first fault on the way.
-/

namespace Keypad

def computeTokens (tokens : List Token) : Except Fault Binary64 :=
  Yard.reorder tokens >>= Machine.evaluate

def compute (text : Text) : Except Fault Binary64 :=
  Token.ofText text >>= computeTokens

end Keypad
