import Keypad.Text.Basic

/-!
Blank characters.

Owns:
- the blanks that an expression may contain anywhere;
- the smaller set that may surround a number in a setting;
- removing blanks, from the ends of a text or from all of it.

Main statements: `isBlank_of_isWhitespace` (every ASCII white space is blank),
`isBlank_of_isNumberBlank`, `squeeze_append`.
-/

namespace Keypad.Text

/-- Blanks around a number: the ASCII layout characters and the space, and the
separators beyond ASCII. -/
def isNumberBlank (character : Char) : Bool :=
  let code := character.toNat
  (0x09 ≤ code && code ≤ 0x0d) || code = 0x20 || code = 0x85 || code = 0xa0 ||
    code = 0x1680 || (0x2000 ≤ code && code ≤ 0x200a) || code = 0x2028 ||
    code = 0x2029 || code = 0x202f || code = 0x205f || code = 0x3000

/-- Blanks in a text: those around a number and the four ASCII information
separators. -/
def isBlank (character : Char) : Bool :=
  isNumberBlank character ||
    (0x1c ≤ character.toNat && character.toNat ≤ 0x1f)

def trim (text : Text) : Text :=
  trimBy isBlank text

def squeeze (text : Text) : Text :=
  text.filter fun character => !isBlank character

def lastVisible? (text : Text) : Option Char :=
  text.reverse.find? fun character => !isBlank character

/-! ## Laws -/

theorem isBlank_of_isNumberBlank
    {character : Char}
    (blank : isNumberBlank character = true) :
    isBlank character = true := by
  simp [isBlank, blank]

theorem isBlank_of_isWhitespace
    {character : Char}
    (white : character.isWhitespace = true) :
    isBlank character = true := by
  simp only [Char.isWhitespace, Bool.or_eq_true, decide_eq_true_eq] at white
  rcases white with ((rfl | rfl) | rfl) | rfl <;> rfl

/-- A digit is no blank. -/
theorem isNumberBlank_of_isDigit
    {character : Char}
    (digit : character.isDigit = true) :
    isNumberBlank character = false := by
  have bounds : 0x30 ≤ character.toNat ∧ character.toNat ≤ 0x39 := by
    simp only [Char.isDigit, Bool.and_eq_true, decide_eq_true_eq,
      UInt32.le_iff_toNat_le] at digit
    exact digit
  simp only [isNumberBlank, Bool.or_eq_false_iff, Bool.and_eq_false_iff,
    decide_eq_false_iff_not]
  omega

@[simp] theorem squeeze_append (front back : Text) :
    squeeze (front ++ back) = squeeze front ++ squeeze back := by
  simp [squeeze]

/-- Removing blanks twice is removing them once. -/
@[simp] theorem squeeze_squeeze (text : Text) :
    squeeze (squeeze text) = squeeze text := by
  simp [squeeze]

/-- A text ends in the character typed last, unless that was a blank. -/
theorem lastVisible?_append_singleton
    (text : Text)
    {character : Char}
    (visible : isBlank character = false) :
    lastVisible? (text ++ [character]) = some character := by
  simp [lastVisible?, visible]

end Keypad.Text
