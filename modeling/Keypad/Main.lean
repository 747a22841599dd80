import Keypad.CommandLine.Commands
import Keypad.Settings

/-!
The program: it reads its settings from the environment and its command from
the arguments, prints, and ends with an exit code.
-/

namespace Keypad

def environmentText (name : String) : IO (Option Text) := do
  return (← IO.getEnv name).map String.toList

def environmentTexts : IO SettingTexts := do
  return {
    debug := ← environmentText "DEBUG"
    precision := ← environmentText "PADCALC_PRECISION"
    debounceMilliseconds := ← environmentText "PADCALC_DEBOUNCE_MS" }

end Keypad

def main (arguments : List String) : IO UInt32 := do
  match Keypad.Settings.read (← Keypad.environmentTexts) with
  | .error fault =>
      IO.eprintln fault.message
      return 1
  | .ok settings =>
      let ending :=
        Keypad.CommandLine.run settings.precision (arguments.map String.toList)
      IO.print (String.ofList ending.output)
      match ending with
      | .stopped fault => IO.eprintln fault.message
      | .refused => IO.eprintln "Usage: (eval | keys | check) [options] arguments"
      | .finished _ _ => pure ()
      return ending.exitCode.toUInt32
