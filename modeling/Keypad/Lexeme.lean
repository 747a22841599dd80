import Keypad.Decimal.Numeral
import Keypad.Text.Blank
import Keypad.Text.Glyph
import Keypad.Token

/-!
Lexemes: the pieces that an expression's characters fall into.

A lexeme is a numeral, an operator or a parenthesis.  A hyphen at the start of
an expression, after an operator or after an opening parenthesis is the sign of
the numeral that follows; elsewhere it is the operator.  Numerals are as long
as possible.

Owns:
- the type of lexemes, their text and their token;
- the scan of a text without blanks into lexemes;
- the tokens of a text, glyphs and blanks included.
-/

namespace Keypad

inductive Lexeme where
  | numeral (written : Numeral)
  | operator (op : Operator)
  | opening
  | closing
deriving DecidableEq

namespace Lexeme

def text : Lexeme → Text
  | .numeral written => written.text
  | .operator op => [op.symbol]
  | .opening => ['(']
  | .closing => [')']

def token : Lexeme → Token
  | .numeral written => .number written.number
  | .operator op => .operator op
  | .opening => .opening
  | .closing => .closing

/-- A hyphen after this lexeme is a sign. -/
def allowsSign : Lexeme → Bool
  | .operator _ => true
  | .opening => true
  | _ => false

def ofChar? (character : Char) : Option Lexeme :=
  if character = '(' then some .opening
  else if character = ')' then some .closing
  else (Operator.ofSymbol? character).map .operator

/-- A numeral at the start of a text, with the rest, when one starts there.
A numeral starts with a digit, a point, or a hyphen where a sign is allowed;
it need not have a digit. -/
def numeral? (signAllowed : Bool) : Text → Option (Numeral × Text)
  | [] => none
  | first :: rest =>
      if first.isDigit ∨ first = '.' then
        some (Numeral.scan false (first :: rest))
      else if first = '-' ∧ signAllowed then
        some (Numeral.scan true rest)
      else
        none

/-- A numeral that was found takes at least one character. -/
theorem numeral?_rest_length
    {signAllowed : Bool}
    {text : Text}
    {found : Numeral × Text}
    (present : numeral? signAllowed text = some found) :
    found.2.length < text.length := by
  unfold numeral? at present
  split at present
  · contradiction
  · rename_i first rest
    split at present
    · rename_i starts
      cases Option.some.inj present
      exact Numeral.scan_rest_length_lt false rest starts
    · split at present
      · cases Option.some.inj present
        exact Nat.lt_succ_of_le (Numeral.scan_rest_length_le true rest)
      · contradiction

/-- The lexemes of a text without blanks.  `position` counts the characters
before the text, and `signAllowed` says whether a hyphen at its start is a
sign. -/
def scan (position : Nat) (signAllowed : Bool) (text : Text) :
    Except Fault (List Lexeme) :=
  match _found : numeral? signAllowed text with
  | some (written, rest) =>
      if written.HasDigit then do
        let later ← scan (position + written.text.length) false rest
        return .numeral written :: later
      else
        throw (.invalidNumber written.text position)
  | none =>
      match text with
      | [] => return []
      | first :: rest =>
          match ofChar? first with
          | some lexeme => do
              let later ← scan (position + 1) lexeme.allowsSign rest
              return lexeme :: later
          | none => throw (.invalidCharacter first position)
termination_by text.length
decreasing_by
  · exact numeral?_rest_length _found
  · simp

/-! ## One step of the scan -/

@[simp] theorem scan_nil (position : Nat) (signAllowed : Bool) :
    scan position signAllowed [] = .ok [] := by
  unfold scan
  rfl

/-- A numeral with a digit is a lexeme; one without is refused. -/
theorem scan_of_numeral
    (position : Nat)
    {signAllowed : Bool}
    {text rest : Text}
    {written : Numeral}
    (found : numeral? signAllowed text = some (written, rest)) :
    scan position signAllowed text =
      if written.HasDigit then
        scan (position + written.text.length) false rest >>= fun later =>
          .ok (.numeral written :: later)
      else
        .error (.invalidNumber written.text position) := by
  rw [scan]
  split
  · rename_i found'
    rw [found] at found'
    cases found'
    rfl
  · simp_all

/-- A character that starts no numeral is a lexeme of its own, or is refused. -/
theorem scan_of_char
    (position : Nat)
    {signAllowed : Bool}
    {first : Char}
    (rest : Text)
    (noNumeral : numeral? signAllowed (first :: rest) = none) :
    scan position signAllowed (first :: rest) =
      match ofChar? first with
      | some lexeme =>
          scan (position + 1) lexeme.allowsSign rest >>= fun later =>
            .ok (lexeme :: later)
      | none => .error (.invalidCharacter first position) := by
  rw [scan]
  split
  · simp_all
  · rfl

/-- The lexemes of an expression in which blanks may stand anywhere and glyphs
in place of their characters. -/
def ofText (text : Text) : Except Fault (List Lexeme) :=
  scan 0 true (Text.squeeze (Text.plain text))

end Lexeme

namespace Token

/-- The tokens of an expression. -/
def ofText (text : Text) : Except Fault (List Token) := do
  let lexemes ← Lexeme.ofText text
  return lexemes.map Lexeme.token

end Token

end Keypad
