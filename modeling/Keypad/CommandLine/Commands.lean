import Keypad.Calculator.Basic
import Keypad.CommandLine.Arguments
import Keypad.CommandLine.Table

/-!
The commands of the command line.

`eval` computes a whole expression, `keys` replays key presses on an empty
calculator, and `check` types an expression into one and reports the first key
that may not follow.

Owns: what each command prints, and its exit code.
-/

namespace Keypad.CommandLine

/-- How a command line ends: with output and an exit code, over an unusable
precision, or refused because it is no command. -/
inductive Ending where
  | finished (exitCode : Nat) (lines : List Text)
  | stopped (fault : PrecisionFault)
  | refused
deriving DecidableEq, Repr

namespace Ending

def exitCode : Ending → Nat
  | .finished exitCode _ => exitCode
  | .stopped _ => 1
  | .refused => 2

/-- The output of an ending; every line ends with a line feed. -/
def output : Ending → Text
  | .finished _ lines => lines.flatMap fun line => line ++ ['\n']
  | _ => []

end Ending

def runEval (expression : Text) (precision : Int) : Ending :=
  match compute expression with
  | .ok value =>
      match NumberFormat.format precision value with
      | .ok text => .finished 0 [text]
      | .error fault => .stopped fault
  | .error fault =>
      .finished 1 [(fault.kind.name ++ ": " ++ fault.message).toList]

def replay (calculator : Calculator) :
    List Text → Except PrecisionFault (Calculator × List Row)
  | [] => .ok (calculator, [])
  | key :: later =>
      let effect := calculator.press key
      match effect.outcome with
      | .error fault => .error fault
      | .ok displays =>
          (replay effect.calculator later).map fun (final, rows) =>
            (final,
              displays.map (fun display =>
                ⟨key, display.expression, display.result⟩) ++ rows)

def runKeys (keys : List Text) (precision : Int) (steps : Bool) : Ending :=
  match replay (Calculator.new precision none) keys with
  | .error fault => .stopped fault
  | .ok (final, rows) =>
      if steps then
        .finished 0 (Table.lines rows)
      else
        .finished 0 [final.display.expression, final.display.result]

/-- How typing a whole expression ends: every visible character could follow,
one could not, or a preview stopped over an unusable precision. -/
inductive Typing where
  | accepted (calculator : Calculator)
  | refused (character : Char) (position : Nat) (entry : Text)
  | stopped (fault : PrecisionFault)

/-- Type the visible characters of a text, up to the first that may not follow
the entry.  `position` counts the characters before the text. -/
def typeVisible (position : Nat) (calculator : Calculator) : Text → Typing
  | [] => .accepted calculator
  | character :: rest =>
      if Text.isBlank character then
        typeVisible (position + 1) calculator rest
      else if Entry.admits calculator.entry character then
        let effect := calculator.submit [character]
        match effect.outcome with
        | .ok _ => typeVisible (position + 1) effect.calculator rest
        | .error fault => .stopped fault
      else
        .refused character position calculator.entry

def runCheck (expression : Text) (precision : Int) : Ending :=
  match typeVisible 0 (Calculator.new precision none) (Text.plain expression) with
  | .accepted calculator =>
      .finished 0 ["OK ".toList ++ calculator.display.expression]
  | .refused character position entry =>
      .finished 1
        [("Refused " ++ Fault.shown [character] ++ " at " ++
          Fault.counted position ++ " after " ++ Fault.shown entry).toList]
  | .stopped fault => .stopped fault

/-- Run a command; a check always uses the standard precision. -/
def Command.run (standard : Int) : Command → Ending
  | .eval expression precision => runEval expression precision
  | .keys pressed precision steps => runKeys pressed precision steps
  | .check expression => runCheck expression standard

/-- Run a whole command line with the standard precision. -/
def run (standard : Int) (arguments : List Text) : Ending :=
  match command? standard arguments with
  | some command => command.run standard
  | none => .refused

end Keypad.CommandLine
