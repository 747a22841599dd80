import Keypad.Binary64.Arithmetic

/-!
Debouncing: of a burst of requests only the latest is run, once it has been left
alone for a while.

Nothing runs by itself.  The owner asks from time to time whether a request is
due and receives its task; by then the request is no longer pending, so a task
may request another one.

Owns:
- the state of a debouncer, with the clock reading that it was last shown;
- requests, their numbers and due times;
- taking the pending task, at once or when it is due.
-/

namespace Keypad

/-- A request for a task: its number, and the clock reading from which on it is
due. -/
structure Request (Task : Type) where
  id : Nat
  due : Binary64
  task : Task

/-- A debouncer: its quiet period, the clock reading, how many requests there
have been, and the request that is pending. -/
structure Debouncer (Task : Type) where
  wait : Binary64
  now : Binary64
  issued : Nat
  pending : Option (Request Task)

namespace Debouncer

variable {Task : Type}

/-- A debouncer without requests, at clock reading zero. -/
def new (wait : Binary64) : Debouncer Task where
  wait := wait
  now := Binary64.zero
  issued := 0
  pending := none

def isPending (debouncer : Debouncer Task) : Bool :=
  debouncer.pending.isSome

def setClock (debouncer : Debouncer Task) (reading : Binary64) :
    Debouncer Task :=
  { debouncer with now := reading }

/-- The next request, which supersedes a pending one.  It is due a quiet period
after the clock reading of this moment. -/
def nextRequest (debouncer : Debouncer Task) (task : Task) : Request Task where
  id := debouncer.issued + 1
  due := debouncer.now.add debouncer.wait
  task := task

def request (debouncer : Debouncer Task) (task : Task) : Debouncer Task :=
  { debouncer with
    issued := debouncer.issued + 1
    pending := some (debouncer.nextRequest task) }

def cancel (debouncer : Debouncer Task) : Debouncer Task :=
  { debouncer with pending := none }

/-- The pending request, due or not, together with the debouncer that it has
left. -/
def flush? (debouncer : Debouncer Task) :
    Option (Request Task × Debouncer Task) :=
  debouncer.pending.map fun request => (request, debouncer.cancel)

/-- The pending request, unless the clock reading is below its due time. -/
def poll? (debouncer : Debouncer Task) :
    Option (Request Task × Debouncer Task) :=
  match debouncer.pending with
  | none => none
  | some request =>
      if debouncer.now.less request.due then none else debouncer.flush?

/-! ## Laws -/

@[simp] theorem pending_cancel (debouncer : Debouncer Task) :
    debouncer.cancel.pending = none :=
  rfl

@[simp] theorem pending_request (debouncer : Debouncer Task) (task : Task) :
    (debouncer.request task).pending = some (debouncer.nextRequest task) :=
  rfl

@[simp] theorem issued_request (debouncer : Debouncer Task) (task : Task) :
    (debouncer.request task).issued = debouncer.issued + 1 :=
  rfl

/-- What is polled is what would be flushed. -/
theorem flush?_of_poll?
    {debouncer : Debouncer Task}
    {taken : Request Task × Debouncer Task}
    (polled : debouncer.poll? = some taken) :
    debouncer.flush? = some taken := by
  unfold poll? at polled
  split at polled
  · contradiction
  · split at polled
    · contradiction
    · exact polled

/-- A taken request is no longer pending. -/
theorem pending_of_flush?
    {debouncer : Debouncer Task}
    {taken : Request Task × Debouncer Task}
    (flushed : debouncer.flush? = some taken) :
    taken.2.pending = none := by
  obtain ⟨request, _, rfl⟩ := Option.map_eq_some_iff.mp flushed
  rfl

end Debouncer

end Keypad
