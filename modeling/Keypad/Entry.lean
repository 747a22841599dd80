import Keypad.Operator
import Keypad.Text.Blank

/-!
Typing an expression key by key.

Whether a key may follow is decided from the last visible character of the
entry and, for the point, from the number being typed.  The rules are stricter
than those of an expression: two operators never stand side by side, even where
the second could be a sign.

Owns:
- the keys of the keypad;
- which key may follow an entry;
- what the parenthesis key types.
-/

namespace Keypad

namespace Entry

def initial : Text :=
  ['0']

/-- The characters of a number: digits and the point. -/
def isNumberKey (character : Char) : Bool :=
  character.isDigit || character = '.'

def isKey (character : Char) : Bool :=
  isNumberKey character || Operator.isSymbol character ||
    character = '(' || character = ')'

/-- The characters that end a number. -/
def isSeparator (character : Char) : Bool :=
  character = '+' || character = '-' || character = '*' ||
    character = '/' || character = '(' || character = ')'

/-- What stands behind the last separator. -/
def trailingNumber (entry : Text) : Text :=
  (entry.reverse.takeWhile fun character => !isSeparator character).reverse

def openings (entry : Text) : Nat :=
  entry.count '('

def closings (entry : Text) : Nat :=
  entry.count ')'

def balanced (entry : Text) : Bool :=
  openings entry = closings entry

def endsInOperator (entry : Text) : Bool :=
  (Text.lastVisible? entry).any Operator.isSymbol

def endsInNumber (entry : Text) : Bool :=
  (Text.lastVisible? entry).any isNumberKey

def endsIn (entry : Text) (character : Char) : Bool :=
  Text.lastVisible? entry = some character

/-- Two visible characters that may not stand side by side: an operator after
an operator, an opening parenthesis after a number, and a closing one after an
operator or an opening one. -/
def clash (before after : Char) : Bool :=
  (Operator.isSymbol before && Operator.isSymbol after) ||
    (after = '(' && isNumberKey before) ||
    (after = ')' && (Operator.isSymbol before || before = '('))

/-- A key that may not follow an entry: one that clashes with the last visible
character, an operator other than the minus on an empty keypad, and a second
point in a number. -/
def refuses (entry : Text) (key : Char) : Bool :=
  (Text.lastVisible? entry).any (clash · key) ||
    (entry = initial && Operator.isSymbol key && key ≠ '-') ||
    (key = '.' && (trailingNumber entry).contains '.')

def accepts (entry : Text) (key : Char) : Bool :=
  !refuses entry key

/-- The rules speak about single keys; they refuse no other text. -/
def acceptsText (entry candidate : Text) : Bool :=
  match candidate with
  | [key] => accepts entry key
  | _ => true

def admits (entry : Text) (key : Char) : Bool :=
  isKey key && accepts entry key

/-- The entry after a key that may follow it; on an empty keypad a number key
takes the place of the zero. -/
def append (entry : Text) (key : Char) : Text :=
  if entry = initial ∧ isNumberKey key then [key] else entry ++ [key]

def eraseLast (entry : Text) : Text :=
  if entry.length ≤ 1 then initial else entry.dropLast

/-- What the parenthesis key types: it closes an open group after an operand,
and otherwise opens one, which it multiplies by an operand before it. -/
def parenthesisKeys (entry : Text) : Text :=
  if closings entry < openings entry ∧ ¬ endsInOperator entry ∧
      ¬ endsIn entry '(' then
    [')']
  else if endsInNumber entry ∨ endsIn entry ')' then
    ['*', '(']
  else
    ['(']

/-- An entry typed key by key, as long as every key may follow. -/
def type? (entry : Text) (keys : Text) : Option Text :=
  keys.foldlM
    (fun typed key => if admits typed key then some (append typed key) else none)
    entry

/-! ## Laws -/

/-- Every key is a visible ASCII character. -/
theorem code_of_isKey
    {character : Char}
    (key : isKey character = true) :
    0x25 ≤ character.toNat ∧ character.toNat ≤ 0x39 := by
  simp only [isKey, isNumberKey, Bool.or_eq_true, decide_eq_true_eq] at key
  rcases key with (((digit | rfl) | operator) | rfl) | rfl
  · simp only [Char.isDigit, Bool.and_eq_true, decide_eq_true_eq,
      UInt32.le_iff_toNat_le] at digit
    exact ⟨Nat.le_trans (by decide) digit.1, digit.2⟩
  · decide
  · obtain ⟨op, rfl⟩ := Operator.isSymbol_iff.mp operator
    cases op <;> decide
  · decide
  · decide

/-- No key is blank. -/
theorem isBlank_of_isKey
    {character : Char}
    (key : isKey character = true) :
    Text.isBlank character = false := by
  have code := code_of_isKey key
  simp only [Text.isBlank, Text.isNumberBlank, Bool.or_eq_false_iff,
    Bool.and_eq_false_iff, decide_eq_false_iff_not]
  omega

@[simp] theorem openings_append (front back : Text) :
    openings (front ++ back) = openings front + openings back :=
  List.count_append

@[simp] theorem closings_append (front back : Text) :
    closings (front ++ back) = closings front + closings back :=
  List.count_append

theorem append_ne_nil (entry : Text) (key : Char) : append entry key ≠ [] := by
  unfold append
  split <;> simp

/-- Erasing takes an accepted key back: where the key stands alone it replaced
the zero of an empty keypad, which comes back. -/
theorem eraseLast_append
    {entry : Text}
    (nonempty : entry ≠ [])
    (key : Char) :
    eraseLast (append entry key) = entry := by
  unfold append
  split
  · rename_i replaces
    exact replaces.1.symm
  · have positive : 0 < entry.length := List.length_pos_iff.mpr nonempty
    have long : ¬ (entry ++ [key]).length ≤ 1 := by
      rw [List.length_append, List.length_singleton]
      omega
    rw [eraseLast, if_neg long, List.dropLast_concat]

theorem type?_nil (entry : Text) : type? entry [] = some entry :=
  rfl

theorem type?_append (entry front back : Text) :
    type? entry (front ++ back) =
      (type? entry front).bind fun between => type? between back := by
  simp [type?, List.foldlM_append]

end Entry

end Keypad
