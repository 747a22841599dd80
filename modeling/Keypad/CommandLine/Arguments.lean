import Keypad.CommandLine.WholeNumber

/-!
The arguments of the command line.

A command comes first; its options and its positional arguments follow in any
order.  After a double hyphen everything is positional.

Owns:
- the options of each command;
- sorting the arguments of a command into options and positional ones;
- the commands, complete with their values.

A command line that fits no command is refused as a whole.
-/

namespace Keypad.CommandLine

inductive Command where
  | eval (expression : Text) (precision : Int)
  | keys (pressed : List Text) (precision : Int) (steps : Bool)
  | check (expression : Text)
deriving DecidableEq, Repr

structure Options where
  precision : Bool
  steps : Bool
deriving DecidableEq, Repr

/-- What has been given: the text of the last precision, whether steps are asked
for, and the positional arguments. -/
structure Given where
  precision : Option Text
  steps : Bool
  positional : List Text
deriving DecidableEq, Repr

namespace Given

def nothing : Given :=
  ⟨none, false, []⟩

def addPositional (given : Given) (argument : Text) : Given :=
  { given with positional := given.positional ++ [argument] }

def setPrecision (given : Given) (value : Text) : Given :=
  { given with precision := some value }

def setSteps (given : Given) : Given :=
  { given with steps := true }

end Given

/-- What one argument turns out to be, once it is known to be an option: it is
complete, it wants the next argument as its precision, or it is unknown. -/
inductive Reading where
  | complete (given : Given)
  | wantsPrecision (given : Given)
  | unknown

def precisionName : Text :=
  "--precision".toList

def stepsName : Text :=
  "--steps".toList

/-- Read the letters behind a single hyphen, each an option of its own.  Letters
behind the one for the precision are its value. -/
def readLetters (options : Options) (given : Given) : Text → Reading
  | [] => .complete given
  | letter :: rest =>
      if letter = 's' ∧ options.steps then
        readLetters options given.setSteps rest
      else if letter = 'p' ∧ options.precision then
        if rest = [] then .wantsPrecision given
        else .complete (given.setPrecision rest)
      else
        .unknown

/-- Read an option.  A named one may carry a value behind an equals sign, which
only the precision takes. -/
def readOption (options : Options) (given : Given) (argument : Text) : Reading :=
  if argument.take 2 = ['-', '-'] then
    let name := argument.takeWhile (· ≠ '=')
    let value? := (argument.dropWhile (· ≠ '=')).tail?
    if name = precisionName ∧ options.precision then
      match value? with
      | some value => .complete (given.setPrecision value)
      | none => .wantsPrecision given
    else if name = stepsName ∧ options.steps ∧ value? = none then
      .complete given.setSteps
    else
      .unknown
  else
    readLetters options given (argument.drop 1)

/-- An argument that starts like an option.  A lone hyphen does not. -/
def isOption (argument : Text) : Bool :=
  argument.head? = some '-' && 1 < argument.length

def sort (options : Options) (given : Given) : List Text → Option Given
  | [] => some given
  | argument :: rest =>
      if argument = ['-', '-'] then
        some (rest.foldl Given.addPositional given)
      else if isOption argument then
        match readOption options given argument with
        | .complete next => sort options next rest
        | .wantsPrecision next =>
            match rest with
            | value :: later => sort options (next.setPrecision value) later
            | [] => none
        | .unknown => none
      else
        sort options (given.addPositional argument) rest

def precisionOf? (standard : Int) (given : Given) : Option Int :=
  match given.precision with
  | none => some standard
  | some text => readWholeNumber? text

def commandOf? (standard : Int) (name : Text) (arguments : List Text) :
    Option Command :=
  if name = ['e', 'v', 'a', 'l'] then do
    let given ← sort ⟨true, false⟩ .nothing arguments
    let precision ← precisionOf? standard given
    match given.positional with
    | [expression] => return .eval expression precision
    | _ => none
  else if name = ['k', 'e', 'y', 's'] then do
    let given ← sort ⟨true, true⟩ .nothing arguments
    let precision ← precisionOf? standard given
    match given.positional with
    | [] => none
    | keys => return .keys keys precision given.steps
  else if name = ['c', 'h', 'e', 'c', 'k'] then do
    let given ← sort ⟨false, false⟩ .nothing arguments
    match given.positional with
    | [expression] => return .check expression
    | _ => none
  else
    none

/-- The command of a whole command line, if it is one.  A double hyphen before
the name of the command is skipped. -/
def command? (standard : Int) : List Text → Option Command
  | ['-', '-'] :: name :: arguments => commandOf? standard name arguments
  | name :: arguments => commandOf? standard name arguments
  | [] => none

end Keypad.CommandLine
