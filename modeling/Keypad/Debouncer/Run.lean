import Keypad.Debouncer.Basic
import Keypad.Text.Basic

/-!
Running a debouncer whose callbacks may request further callbacks.

Owns:
- callbacks with a label, which request other callbacks while they run;
- the events of a debouncer and what each of them answers;
- runs over lists of events.

A callback starts after its own request has been cleared, so what it requests
stays pending until a later event.
-/

namespace Keypad

/-- A callback: the label that it leaves behind, and the callbacks that it
requests, in turn, while it runs. -/
inductive Callback where
  | mk (label : Text) (requests : List Callback)

namespace Callback

def label : Callback → Text
  | .mk label _ => label

def requests : Callback → List Callback
  | .mk _ requests => requests

def chain (label : Text) : List Text → Callback
  | [] => .mk label []
  | next :: later => .mk label [chain next later]

end Callback

namespace Debouncer

inductive Event where
  | setClock (reading : Binary64)
  | request (callback : Callback)
  | poll
  | flush
  | cancel

/-- What an event answers: the number of a new request, whether a callback ran,
or nothing. -/
inductive Answer where
  | none
  | issued (id : Nat)
  | ran (whether : Bool)
deriving DecidableEq, Repr

/-- The state after an event, its answer, and the request whose callback it
started, if any. -/
structure Outcome where
  debouncer : Debouncer Callback
  answer : Answer
  started : Option (Request Callback)

/-- Several requests in turn, each superseding the one before. -/
def requestAll (debouncer : Debouncer Callback) (callbacks : List Callback) :
    Debouncer Callback :=
  callbacks.foldl request debouncer

def start (debouncer : Debouncer Callback) :
    Option (Request Callback × Debouncer Callback) → Outcome
  | none => ⟨debouncer, .ran false, none⟩
  | some (taken, rest) =>
      ⟨rest.requestAll taken.task.requests, .ran true, some taken⟩

def perform (debouncer : Debouncer Callback) : Event → Outcome
  | .setClock reading => ⟨debouncer.setClock reading, .none, none⟩
  | .request callback =>
      ⟨debouncer.request callback, .issued (debouncer.issued + 1), none⟩
  | .poll => debouncer.start debouncer.poll?
  | .flush => debouncer.start debouncer.flush?
  | .cancel => ⟨debouncer.cancel, .none, none⟩

def run (debouncer : Debouncer Callback) : List Event → List Outcome
  | [] => []
  | event :: later =>
      let outcome := debouncer.perform event
      outcome :: run outcome.debouncer later

end Debouncer

end Keypad
