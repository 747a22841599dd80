import Keypad.Decimal.Reading
import Keypad.Text.Blank

/-!
Whole numbers as the values of options.

A value may stand between blanks and may have a sign.  It may start with zeros,
which do not count and may be mixed with underscores; the digits after them may
have single underscores between them; and a point with one zero or more behind
it, and nothing else, may end it.  Only ASCII digits are digits here.

Owns: reading such a value.

Main statement: `readWholeNumber?_of_digits` (digits without leading zeros stand
for their number).
-/

namespace Keypad.CommandLine

/-- The most digits that a value may have, without those that do not count. -/
def digitLimit : Nat :=
  4300

/-- A character that does not count at the start of a value. -/
def isLeading (character : Char) : Bool :=
  character = '0' || character = '_'

/-- A value without what does not count at its start, where an underscore may
not come first.  The last of the leading characters stays when no digit follows
it. -/
def dropLeading? (body : Text) : Option Text :=
  let leading := body.takeWhile isLeading
  let rest := body.dropWhile isLeading
  if leading.head? = some '_' then none
  else if rest = [] ∨ rest.head? = some '.' then
    leading.getLast?.map (· :: rest)
  else
    some rest

/-- A value without its fraction, which has at least one digit and holds nothing
but zeros. -/
def dropFraction? : Text → Option Text
  | [] => some []
  | character :: rest =>
      if character = '.' then
        if rest ≠ [] ∧ rest.all (· = '0') then some [] else none
      else
        (dropFraction? rest).map (character :: ·)

/-- A value without its underscores, none of which may come first, last or after
another.  An empty value is none. -/
def joinGroups? (expectsDigit : Bool) : Text → Option Text
  | [] => if expectsDigit then none else some []
  | character :: rest =>
      if character = '_' then
        if expectsDigit then none else joinGroups? true rest
      else
        (joinGroups? false rest).map (character :: ·)

def ofPlainDigits? (negative : Bool) (digits : Text) : Option Int :=
  if digits ≠ [] ∧ digits.all Char.isDigit ∧
      (digits.head? = some '0' → digits = ['0']) ∧
      digits.length ≤ digitLimit then
    some (withSign negative (Decimal.ofDigits digits))
  else
    none

/-- The number of a value without superfluous characters.  `mayNegate` says
whether a negative sign may still come. -/
def ofCounted? (mayNegate negative : Bool) : Text → Option Int
  | [] => none
  | character :: rest =>
      if character = '-' then
        if mayNegate then ofPlainDigits? true rest else none
      else
        ofPlainDigits? negative (character :: rest)

/-- A whole number as the value of an option.  A negative sign may also stand
behind leading zeros, when there is none in front of them. -/
def readWholeNumber? (text : Text) : Option Int :=
  let (negative, body) :=
    Decimal.splitSign (Text.trimBy Text.isNumberBlank text)
  let counted := dropLeading? body >>= dropFraction? >>= joinGroups? true
  counted >>= ofCounted? (body.head? = some '0' && !negative) negative

/-! ## Laws -/

/-- Digits without underscores stay as they are. -/
theorem joinGroups?_of_digits
    {expectsDigit : Bool}
    {text : Text}
    (digits : ∀ character ∈ text, character.isDigit = true)
    (present : expectsDigit = true → text ≠ []) :
    joinGroups? expectsDigit text = some text := by
  induction text generalizing expectsDigit with
  | nil =>
      cases expectsDigit with
      | false => rfl
      | true => exact absurd rfl (present rfl)
  | cons first rest inductionHypothesis =>
      have notUnderscore : first ≠ '_' := by
        rintro rfl
        exact absurd (digits '_' (by simp)) (by decide)
      rw [joinGroups?, if_neg notUnderscore,
        inductionHypothesis (fun character member =>
          digits character (by simp [member])) (by simp),
        Option.map_some]

/-- Digits without a point have no fraction to drop. -/
theorem dropFraction?_of_digits
    {text : Text}
    (digits : ∀ character ∈ text, character.isDigit = true) :
    dropFraction? text = some text := by
  induction text with
  | nil => rfl
  | cons first rest inductionHypothesis =>
      have notPoint : first ≠ '.' := by
        rintro rfl
        exact absurd (digits '.' (by simp)) (by decide)
      rw [dropFraction?, if_neg notPoint,
        inductionHypothesis fun character member =>
          digits character (by simp [member]),
        Option.map_some]

/-- Digits that start with no zero have nothing that does not count. -/
theorem dropLeading?_of_digits
    {first : Char}
    {rest : Text}
    (digit : first.isDigit = true)
    (notZero : first ≠ '0') :
    dropLeading? (first :: rest) = some (first :: rest) := by
  have counts : isLeading first = false := by
    have notUnderscore : first ≠ '_' := by
      rintro rfl
      exact absurd digit (by decide)
    simp [isLeading, notZero, notUnderscore]
  have notPoint : first ≠ '.' := by
    rintro rfl
    exact absurd digit (by decide)
  simp [dropLeading?, counts, notPoint]

/-- Digits without leading zeros stand for their number. -/
theorem readWholeNumber?_of_digits
    {first : Char}
    {rest : Text}
    (digits : ∀ character ∈ first :: rest, character.isDigit = true)
    (notZero : first ≠ '0')
    (short : (first :: rest).length ≤ digitLimit) :
    readWholeNumber? (first :: rest) =
      some (Decimal.ofDigits (first :: rest) : Int) := by
  have digit : first.isDigit = true := digits first (by simp)
  have notPlus : first ≠ '+' := by
    rintro rfl
    exact absurd digit (by decide)
  have notMinus : first ≠ '-' := by
    rintro rfl
    exact absurd digit (by decide)
  have trimmed := Text.trimBy_of_none fun character member =>
    Text.isNumberBlank_of_isDigit (digits character member)
  have unsigned : Decimal.splitSign (first :: rest) = (false, first :: rest) := by
    simp [Decimal.splitSign, notPlus, notMinus]
  have plain : ofPlainDigits? false (first :: rest) =
      some (Decimal.ofDigits (first :: rest) : Int) := by
    rw [ofPlainDigits?, if_pos]
    · rfl
    · refine ⟨by simp, List.all_eq_true.mpr digits, ?_, short⟩
      intro startsWithZero
      exact absurd (Option.some.inj startsWithZero) notZero
  have counted :
      (dropLeading? (first :: rest) >>= dropFraction? >>= joinGroups? true) =
        some (first :: rest) := by
    rw [dropLeading?_of_digits digit notZero]
    change (dropFraction? (first :: rest)).bind (joinGroups? true) = _
    rw [dropFraction?_of_digits digits, Option.bind_some,
      joinGroups?_of_digits digits (by simp)]
  simp only [readWholeNumber?, trimmed, unsigned]
  rw [counted, Option.bind_eq_bind, Option.bind_some, ofCounted?,
    if_neg notMinus, plain]

end Keypad.CommandLine
