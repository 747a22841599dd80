import Keypad.Entry
import Keypad.Lexeme

/-!
What makes a text unreadable, by its characters alone.

A text without blanks is unreadable where it has a character that is no key, and
where a literal has no digit: a lone hyphen in the place of a sign, a lone point, or
these two.  Whether a hyphen is a sign and whether a point starts a literal can be
told from the characters before it; the characters behind a literal must not go on
with it.

Owns: these two offences, and the places where a text has them.

Does not own: the scan of a text.
-/

namespace Keypad.Lexeme

/-- A hyphen behind these characters is a sign: they are none, or the last of them is
an operator or an opening parenthesis. -/
def signStandsBehind (before : Text) : Bool :=
  before.getLast?.all fun last => Operator.isSymbol last || last = '('

@[simp] theorem signStandsBehind_concat (front : Text) (last : Char) :
    signStandsBehind (front ++ [last]) = (Operator.isSymbol last || last = '(') := by
  simp [signStandsBehind]

/-- A point behind these characters starts a literal.  It does when it stands behind
neither a digit nor a sign, and when the digits that it stands behind have a point in
front of them already. -/
inductive PointStarts (before : Text) : Prop where
  | alone
      (noNumber : ∀ front last, before = front ++ [last] →
        last.isDigit = false ∧ (last = '-' → signStandsBehind front = false)) :
      PointStarts before
  | second
      {front digits : Text}
      (split : before = front ++ '.' :: digits)
      (allDigits : ∀ digit ∈ digits, digit.isDigit = true) :
      PointStarts before

/-- A literal without a digit between the characters before and behind it.  It is as
long as possible. -/
inductive Malformed (before : Text) : Text → Text → Prop where
  | sign
      {behind : Text}
      (signed : signStandsBehind before = true)
      (ends : ∀ next, behind.head? = some next → next.isDigit = false ∧ next ≠ '.') :
      Malformed before ['-'] behind
  | point
      {behind : Text}
      (starts : PointStarts before)
      (ends : ∀ next, behind.head? = some next → next.isDigit = false) :
      Malformed before ['.'] behind
  | signedPoint
      {behind : Text}
      (signed : signStandsBehind before = true)
      (ends : ∀ next, behind.head? = some next → next.isDigit = false) :
      Malformed before ['-', '.'] behind

def MalformedAt (text : Text) (position : Nat) (literal : Text) : Prop :=
  ∃ before behind, text = before ++ literal ++ behind ∧ before.length = position ∧
    Malformed before literal behind

def StrangeAt (text : Text) (position : Nat) (character : Char) : Prop :=
  text[position]? = some character ∧ Entry.isKey character = false

def Offends (text : Text) (position : Nat) : Prop :=
  (∃ character, StrangeAt text position character) ∨
    ∃ literal, MalformedAt text position literal

def FreeBefore (text : Text) (position : Nat) : Prop :=
  ∀ earlier < position, ¬ Offends text earlier

theorem FreeBefore.le
    {text : Text}
    {bound position : Nat}
    (free : FreeBefore text bound)
    (offends : Offends text position) :
    bound ≤ position :=
  Nat.le_of_not_lt fun before => free position before offends

/-- An offence is at a character of the text. -/
theorem Offends.lt_length
    {text : Text}
    {position : Nat}
    (offends : Offends text position) :
    position < text.length := by
  rcases offends with ⟨character, found, _⟩ | ⟨literal, before, behind, rfl, rfl, malformed⟩
  · exact (List.getElem?_eq_some_iff.mp found).1
  · cases malformed <;> simp

/-- A literal starts with a key. -/
theorem MalformedAt.not_strangeAt
    {text literal : Text}
    {position : Nat}
    (malformed : MalformedAt text position literal)
    (character : Char) :
    ¬ StrangeAt text position character := by
  rintro ⟨found, strange⟩
  obtain ⟨before, behind, rfl, rfl, malformed⟩ := malformed
  cases malformed with
  | sign =>
      obtain rfl : '-' = character := by simpa using found
      contradiction
  | point =>
      obtain rfl : '.' = character := by simpa using found
      contradiction
  | signedPoint =>
      obtain rfl : '-' = character := by simpa using found
      contradiction

/-- A text has at most one malformed literal at a position. -/
theorem MalformedAt.unique
    {text literal other : Text}
    {position : Nat}
    (malformed : MalformedAt text position literal)
    (otherMalformed : MalformedAt text position other) :
    literal = other := by
  obtain ⟨before, behind, split, place, malformed⟩ := malformed
  obtain ⟨otherBefore, otherBehind, otherSplit, otherPlace, otherMalformed⟩ :=
    otherMalformed
  rw [split, List.append_assoc, List.append_assoc] at otherSplit
  obtain ⟨rfl, same⟩ := List.append_inj otherSplit (place.trans otherPlace.symm)
  cases malformed with
  | sign signed ends =>
      cases otherMalformed with
      | sign => rfl
      | point => simp at same
      | signedPoint =>
          obtain rfl : behind = '.' :: otherBehind := by simpa using same
          exact absurd rfl (ends '.' rfl).2
  | point starts ends =>
      cases otherMalformed with
      | point => rfl
      | sign => simp at same
      | signedPoint => simp at same
  | signedPoint signed ends =>
      cases otherMalformed with
      | signedPoint => rfl
      | point => simp at same
      | sign _ otherEnds =>
          obtain rfl : '.' :: behind = otherBehind := by simpa using same
          exact absurd rfl (otherEnds '.' rfl).2

end Keypad.Lexeme
