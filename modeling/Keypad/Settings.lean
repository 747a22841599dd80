import Keypad.Binary64.Arithmetic
import Keypad.Decimal.Reading
import Keypad.NumberFormat
import Keypad.Text.Blank
import Keypad.Text.DecimalDigit
import Keypad.Text.Quoted

/-!
Settings read from texts, as an environment holds them.

Owns:
- reading flags, whole numbers and numbers from the text of a setting;
- the settings of a calculator with their defaults;
- the failures of settings that cannot be read.

Numbers may be surrounded by blanks, may be written in the digits of any
script, and may have single underscores between digits.
-/

namespace Keypad

inductive SettingFault where
  | notInteger (text : Text)
  | tooManyDigits (count : Nat)
  | notNumber (text : Text)
deriving DecidableEq, Repr

namespace SettingFault

def quotedLimit : Nat :=
  200

/-- The message of an unreadable setting.  A quoted whole number is cut off at a
fixed length; a quoted number is shown in full. -/
def message : SettingFault → String
  | .notInteger text =>
      "invalid literal for int() with base 10: " ++
        String.ofList ((Text.quoted text).take quotedLimit)
  | .tooManyDigits count =>
      "Exceeds the limit (4300 digits) for integer string conversion: value has " ++
        String.ofList (Decimal.digits count) ++
        " digits; use sys.set_int_max_str_digits() to increase the limit"
  | .notNumber text =>
      "could not convert string to float: " ++ String.ofList (Text.quoted text)

end SettingFault

namespace Settings

/-- The digits of any script as ASCII digits; other characters are kept. -/
def asciiDigits (text : Text) : Text :=
  text.map fun character => (Text.asciiDigit? character).getD character

/-- A text without underscores, each of which must stand between two digits. -/
def joinDigits? (afterDigit : Bool) : Text → Option Text
  | [] => some []
  | '_' :: rest =>
      if afterDigit && rest.head?.any Char.isDigit then
        joinDigits? false rest
      else
        none
  | character :: rest =>
      (joinDigits? character.isDigit rest).map (character :: ·)

def digitLimit : Nat :=
  4300

/-- A whole number with an optional sign.  A long run of digits is refused
before anything is said about what follows it. -/
def readInteger (text : Text) : Except SettingFault Int :=
  let (negative, body) :=
    Decimal.splitSign (asciiDigits (Text.trimBy Text.isNumberBlank text))
  let run := body.takeWhile fun character =>
    character.isDigit || character = '_'
  match joinDigits? false run with
  | none | some [] => .error (.notInteger text)
  | some number =>
      if digitLimit < number.length then .error (.tooManyDigits number.length)
      else if run.length < body.length then .error (.notInteger text)
      else .ok (withSign negative (Decimal.ofDigits number))

def lowerCase (text : Text) : Text :=
  text.map Char.toLower

/-- The numbers that have names, without their sign. -/
def namedNumber? (negative : Bool) (name : Text) : Option Binary64 :=
  if name = ['i', 'n', 'f'] ∨
      name = ['i', 'n', 'f', 'i', 'n', 'i', 't', 'y'] then
    some (.infinite negative)
  else if name = ['n', 'a', 'n'] then
    some .nan
  else
    none

def numberText? (text : Text) : Option Text :=
  joinDigits? false (asciiDigits (Text.trimBy Text.isNumberBlank text))

def readNumber (text : Text) : Except SettingFault Binary64 :=
  let number? : Option Binary64 := do
    let number ← numberText? text
    match Decimal.read? number with
    | some decimal => return Binary64.ofDecimal decimal.confine
    | none =>
        let (negative, name) := Decimal.splitSign number
        namedNumber? negative (lowerCase name)
  match number? with
  | some number => .ok number
  | none => .error (.notNumber text)

def offTexts : List Text :=
  [[], ['0'], ['f', 'a', 'l', 's', 'e'], ['n', 'o'], ['o', 'f', 'f']]

/-- A flag is off when it is unset or has one of the texts for that. -/
def readFlag (text : Option Text) : Bool :=
  !offTexts.contains (lowerCase (Text.trim (text.getD [])))

end Settings

structure SettingTexts where
  debug : Option Text
  precision : Option Text
  debounceMilliseconds : Option Text

/-- The settings of a calculator: whether to note what happens, the places of
results, and the quiet period of previews in seconds. -/
structure Settings where
  debug : Bool
  precision : Int
  debounceSeconds : Binary64
deriving DecidableEq

namespace Settings

def defaultPrecision : Int :=
  12

def defaultDebounceMilliseconds : Binary64 :=
  Binary64.ofDecimal ⟨false, 140, 0⟩

def secondsOfMilliseconds (milliseconds : Binary64) : Binary64 :=
  milliseconds.div (Binary64.ofDecimal ⟨false, 1000, 0⟩)

def defaultDebounceSeconds : Binary64 :=
  secondsOfMilliseconds defaultDebounceMilliseconds

/-- The settings from their texts; the precision is read first. -/
def read (texts : SettingTexts) : Except SettingFault Settings := do
  let precision ← texts.precision.elim (.ok defaultPrecision) readInteger
  let milliseconds ←
    texts.debounceMilliseconds.elim (.ok defaultDebounceMilliseconds) readNumber
  return {
    debug := readFlag texts.debug
    precision := precision
    debounceSeconds := secondsOfMilliseconds milliseconds }

end Settings

end Keypad
