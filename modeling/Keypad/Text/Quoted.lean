import Keypad.Text.Basic
import Keypad.Text.Printable

/-!
Quoted texts, as messages show them.

A text stands between apostrophes, or between quotation marks when it holds an
apostrophe and no quotation mark.  Characters that would be misread or cannot
be seen are escaped with a backslash.

Owns: the choice of the quotation mark, the escape of one character, and the
quoted form of a text.
-/

namespace Keypad.Text

def apostrophe : Char :=
  '\x27'

def quotationMark : Char :=
  '\x22'

def backslash : Char :=
  '\x5c'

def enclosingMark (text : Text) : Char :=
  if apostrophe ∈ text ∧ quotationMark ∉ text then quotationMark else apostrophe

/-- A number in hexadecimal, filled up with zeros to a width. -/
def hexadecimal (width number : Nat) : Text :=
  (Nat.toDigits 16 number).leftpad width '0'

/-- A code point by its number, in the shortest of the three forms that has
room for it. -/
def escapeCode (code : Nat) : Text :=
  if code < 0x100 then backslash :: 'x' :: hexadecimal 2 code
  else if code < 0x10000 then backslash :: 'u' :: hexadecimal 4 code
  else backslash :: 'U' :: hexadecimal 8 code

def escape (mark character : Char) : Text :=
  if character = mark ∨ character = backslash then [backslash, character]
  else if character = '\n' then [backslash, 'n']
  else if character = '\x0d' then [backslash, 'r']
  else if character = '\t' then [backslash, 't']
  else if isPrintable character then [character]
  else escapeCode character.toNat

/-- A text between quotation marks, with escapes where they are needed. -/
def quoted (text : Text) : Text :=
  let mark := enclosingMark text
  mark :: (text.flatMap (escape mark) ++ [mark])

/-- A visible ASCII character other than the marks and the backslash is quoted
as it is. -/
theorem escape_of_ascii
    {mark character : Char}
    (fromSpace : 0x20 ≤ character.toNat)
    (toTilde : character.toNat < 0x7f)
    (notMark : character ≠ mark)
    (notBackslash : character ≠ backslash) :
    escape mark character = [character] := by
  have notLayout (layout : Char) (below : layout.toNat < 0x20) :
      character ≠ layout := by
    rintro rfl
    omega
  simp [escape, notMark, notBackslash, notLayout '\n' (by decide),
    notLayout '\x0d' (by decide), notLayout '\t' (by decide),
    isPrintable_of_ascii fromSpace toTilde]

end Keypad.Text
