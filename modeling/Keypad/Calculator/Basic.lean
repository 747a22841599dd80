import Keypad.Computation
import Keypad.Debouncer.Basic
import Keypad.Entry
import Keypad.NumberFormat

/-!
A keypad calculator: an entry that is edited key by key, and a readout.

The readout follows the entry as a preview, at once or through a debouncer, and
shows the result when the entry is finalized; the result then becomes the entry
to go on with.

Owns:
- the calculator's state, what it displays, and what it notes on the way;
- the operations on it.

An operation can fail only over a precision that cannot be used.  What it has
changed before that stays changed.
-/

namespace Keypad

inductive Readout where
  | noValue
  | error
  | number (text : Text)
deriving DecidableEq, Repr

namespace Readout

def noValueText : Text :=
  ['—']

def errorText : Text :=
  ['E', 'r', 'r', 'o', 'r']

def text : Readout → Text
  | .noValue => noValueText
  | .error => errorText
  | .number text => text

end Readout

/-- What a front end shows: the entry with glyphs, and the readout. -/
structure Display where
  expression : Text
  result : Text
deriving DecidableEq, Repr

/-- What is worth noting about an operation. -/
inductive Notice where
  | rejected (key entry : Text)
  | cannotFinalize (entry : Text) (fault : Fault)
  | noPreview (entry : Text) (fault : Fault)
deriving DecidableEq

def Notice.message : Notice → String
  | .rejected key entry =>
      "Rejected " ++ Fault.shown key ++ " after " ++ Fault.shown entry
  | .cannotFinalize entry fault =>
      "Cannot finalize " ++ Fault.shown entry ++ ": " ++ fault.kind.name ++
        ": " ++ fault.message
  | .noPreview entry fault =>
      "No preview for " ++ Fault.shown entry ++ ": " ++ fault.kind.name

/-- The state of a calculator.  The debouncer, if there is one, delays previews;
its tasks carry nothing, for a preview is always one of the current entry. -/
structure Calculator where
  precision : Int
  entry : Text
  readout : Readout
  debouncer : Option (Debouncer Unit)

/-- The state after an operation, its notices, and what it returns. -/
structure Effect (Answer : Type) where
  calculator : Calculator
  notices : List Notice
  outcome : Except PrecisionFault Answer

namespace Calculator

def new (precision : Int) (debouncer : Option (Debouncer Unit)) :
    Calculator where
  precision := precision
  entry := Entry.initial
  readout := .noValue
  debouncer := debouncer

def display (calculator : Calculator) : Display where
  expression := Text.pretty calculator.entry
  result := calculator.readout.text

def reached (calculator : Calculator) (notices : List Notice) :
    Effect Display where
  calculator := calculator
  notices := notices
  outcome := .ok calculator.display

def stopped (calculator : Calculator) (fault : PrecisionFault) :
    Effect Display where
  calculator := calculator
  notices := []
  outcome := .error fault

def showing (calculator : Calculator) (readout : Readout) : Calculator :=
  { calculator with readout := readout }

/-- Show the result of the entry as it stands.  Open groups have no preview and
are no fault. -/
def preview (calculator : Calculator) : Effect Display :=
  if Entry.balanced calculator.entry then
    match compute calculator.entry with
    | .ok value =>
        match NumberFormat.format calculator.precision value with
        | .ok text => (calculator.showing (.number text)).reached []
        | .error fault => calculator.stopped fault
    | .error fault =>
        (calculator.showing .noValue).reached
          [.noPreview calculator.entry fault]
  else
    (calculator.showing .noValue).reached []

def edited (calculator : Calculator) : Effect Display :=
  match calculator.debouncer with
  | none => calculator.preview
  | some debouncer =>
      { calculator with debouncer := some (debouncer.request ()) }.reached []

def withEntry (calculator : Calculator) (entry : Text) : Calculator :=
  { calculator with entry := entry }

def withoutPending (calculator : Calculator) : Calculator :=
  { calculator with debouncer := calculator.debouncer.map Debouncer.cancel }

/-- Type a text, glyphs included.  Only a single key that may follow the entry
changes it; anything else is rejected. -/
def submit (calculator : Calculator) (text : Text) : Effect Display :=
  let rejection :=
    calculator.reached [.rejected (Text.plain text) calculator.entry]
  match Text.plain text with
  | [key] =>
      if Entry.admits calculator.entry key then
        (calculator.withEntry (Entry.append calculator.entry key)).edited
      else
        rejection
  | _ => rejection

def backspace (calculator : Calculator) : Effect Display :=
  (calculator.withEntry (Entry.eraseLast calculator.entry)).edited

def parentheses (calculator : Calculator) : Effect Display :=
  (calculator.withEntry
    (calculator.entry ++ Entry.parenthesisKeys calculator.entry)).edited

def clear (calculator : Calculator) : Effect Display :=
  ((calculator.withoutPending.withEntry Entry.initial).showing .noValue).reached
    []

/-- Show the result and go on with it as the entry, or show an error and keep
the entry. -/
def finalize (calculator : Calculator) : Effect Display :=
  let idle := calculator.withoutPending
  match compute idle.entry with
  | .ok value =>
      match NumberFormat.format idle.precision value with
      | .ok text => ((idle.withEntry text).showing (.number text)).reached []
      | .error fault => idle.stopped fault
  | .error fault =>
      (idle.showing .error).reached [.cannotFinalize idle.entry fault]

/-- Run a preview that was taken from the debouncer, and tell whether there was
one. -/
def runTaken (calculator : Calculator)
    (taken : Option (Request Unit × Debouncer Unit)) : Effect Bool :=
  match taken with
  | none => ⟨calculator, [], .ok false⟩
  | some (_, rest) =>
      let effect := { calculator with debouncer := some rest }.preview
      ⟨effect.calculator, effect.notices, effect.outcome.map fun _ => true⟩

def poll (calculator : Calculator) : Effect Bool :=
  calculator.runTaken (calculator.debouncer.bind Debouncer.poll?)

def flush (calculator : Calculator) : Effect Bool :=
  calculator.runTaken (calculator.debouncer.bind Debouncer.flush?)

def withClock (calculator : Calculator) (reading : Binary64) : Calculator :=
  { calculator with
    debouncer := calculator.debouncer.map (Debouncer.setClock · reading) }

def isPending (calculator : Calculator) : Bool :=
  calculator.debouncer.any Debouncer.isPending

/-! ## Pressing named keys -/

/-- The keys that are not typed but name an operation. -/
def action? (key : Text) : Option (Calculator → Effect Display) :=
  if key = ['='] then some finalize
  else if key = ['C'] then some clear
  else if key = ['B', 'S'] then some backspace
  else if key = ['(', ')'] then some parentheses
  else none

/-- Type the characters of a text one by one and collect the displays.  A
failure ends the typing. -/
def typeAll (calculator : Calculator) : Text → Effect (List Display)
  | [] => ⟨calculator, [], .ok []⟩
  | character :: rest =>
      let first := calculator.submit [character]
      match first.outcome with
      | .error fault => ⟨first.calculator, first.notices, .error fault⟩
      | .ok display =>
          let later := first.calculator.typeAll rest
          ⟨later.calculator, first.notices ++ later.notices,
            later.outcome.map (display :: ·)⟩

/-- Press a key by name: an action, or a text to be typed. -/
def press (calculator : Calculator) (key : Text) : Effect (List Display) :=
  match action? key with
  | some action =>
      let effect := action calculator
      ⟨effect.calculator, effect.notices, effect.outcome.map ([·])⟩
  | none => calculator.typeAll key

end Calculator

end Keypad
