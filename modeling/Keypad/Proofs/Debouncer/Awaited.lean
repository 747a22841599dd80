import Keypad.Proofs.Debouncer.Journal

/-!
Which callback a poll or a flush runs, told from what was done before.

A run is written down as a list of acts: clock readings, requests, started
callbacks and cancellations, the requests of a running callback among them.  At
most one request is awaited after some acts: one that nothing but clock readings
has followed.

Owns:
- the acts of a run, and the request that is awaited after them;
- the law of what a debouncer recalls of its acts, for each act and for runs;
- what a poll and a flush run, and what that leaves pending.

Main statement: `runs_what_is_awaited`.
-/

namespace Keypad.Debouncer

/-! ## Acts -/

/-- What is done to a debouncer, one thing at a time. -/
inductive Act where
  | setClock (reading : Binary64)
  | request (callback : Callback)
  | start (taken : Request Callback)
  | cancel

namespace Act

def reading? : Act → Option Binary64
  | .setClock reading => some reading
  | _ => none

def isRequest : Act → Bool
  | .request _ => true
  | _ => false

/-- No request stays pending over the act: it is superseded, run or cancelled. -/
def displaces : Act → Bool
  | .setClock _ => false
  | _ => true

def ofStarted : Option (Request Callback) → List Act
  | none => []
  | some taken => .start taken :: taken.task.requests.map .request

end Act

def actsAt (debouncer : Debouncer Callback) : Event → List Act
  | .setClock reading => [.setClock reading]
  | .request callback => [.request callback]
  | .poll => Act.ofStarted (debouncer.perform .poll).started
  | .flush => Act.ofStarted (debouncer.perform .flush).started
  | .cancel => [.cancel]

def acts (debouncer : Debouncer Callback) : List Event → List Act
  | [] => []
  | event :: later =>
      debouncer.actsAt event ++ (debouncer.perform event).debouncer.acts later

/-- The clock reading after some acts; before the first reading it is zero. -/
def lastReading (acts : List Act) : Binary64 :=
  (acts.filterMap Act.reading?).getLast?.getD Binary64.zero

def requestCount (acts : List Act) : Nat :=
  acts.countP Act.isRequest

/-- The request for a callback that would follow some acts. -/
def requestAfter (wait : Binary64) (acts : List Act) (callback : Callback) :
    Request Callback where
  id := requestCount acts + 1
  due := (lastReading acts).add wait
  task := callback

/-- The request was made among the acts and has not been superseded, run or
cancelled since. -/
def Awaited (wait : Binary64) (acts : List Act) (request : Request Callback) :
    Prop :=
  ∃ before after,
    acts = before ++ .request request.task :: after ∧
      request = requestAfter wait before request.task ∧
        ∀ act ∈ after, act.displaces = false

/-! ## Laws of acts -/

@[simp] theorem requestCount_append (front back : List Act) :
    requestCount (front ++ back) = requestCount front + requestCount back :=
  List.countP_append

@[simp] theorem requestCount_requests (callbacks : List Callback) :
    requestCount (callbacks.map .request) = callbacks.length := by
  unfold requestCount
  rw [List.countP_map]
  exact List.countP_eq_length.mpr fun _ _ => rfl

private theorem lastReading_concat (acts : List Act) (act : Act) :
    lastReading (acts ++ [act]) = act.reading?.getD (lastReading acts) := by
  unfold lastReading
  cases act <;> simp [Act.reading?]

/-- Requests are made at the reading that was there before them. -/
private theorem lastReading_append_requests (acts : List Act) (callbacks : List Callback) :
    lastReading (acts ++ callbacks.map .request) = lastReading acts := by
  have none : (callbacks.map Act.request).filterMap Act.reading? = [] := by
    simp [Act.reading?]
  unfold lastReading
  rw [List.filterMap_append, none, List.append_nil]

private theorem Awaited.id_le
    {wait : Binary64} {acts : List Act} {request : Request Callback}
    (awaited : Awaited wait acts request) :
    request.id ≤ requestCount acts := by
  obtain ⟨before, after, rfl, isRequest, _⟩ := awaited
  have numbered : request.id = requestCount before + 1 :=
    congrArg Request.id isRequest
  have counted : requestCount (.request request.task :: after) =
      requestCount after + 1 :=
    List.countP_cons_of_pos rfl
  rw [requestCount_append, counted]
  omega

private theorem not_awaited_nil (wait : Binary64) (request : Request Callback) :
    ¬ Awaited wait [] request := by
  rintro ⟨before, after, split, -⟩
  simp at split

/-- The last act made the awaited request, or it left it alone. -/
theorem awaited_concat
    {wait : Binary64} {acts : List Act} {act : Act} {request : Request Callback} :
    Awaited wait (acts ++ [act]) request ↔
      (act = .request request.task ∧ request = requestAfter wait acts request.task) ∨
        (act.displaces = false ∧ Awaited wait acts request) := by
  constructor
  · rintro ⟨before, after, split, isRequest, undisturbed⟩
    rcases List.eq_nil_or_concat' after with rfl | ⟨front, last, rfl⟩
    · obtain ⟨rfl, isLast⟩ := List.append_inj' split rfl
      exact .inl ⟨List.singleton_inj.mp isLast, isRequest⟩
    · rw [← List.cons_append, ← List.append_assoc] at split
      obtain ⟨isFront, isLast⟩ := List.append_inj' split rfl
      obtain rfl := List.singleton_inj.mp isLast
      obtain ⟨inFront, here⟩ := List.forall_mem_append.mp undisturbed
      exact .inr ⟨here act List.mem_cons_self, before, front, isFront, isRequest, inFront⟩
  · rintro (⟨rfl, isRequest⟩ | ⟨leaves, before, after, rfl, isRequest, undisturbed⟩)
    · exact ⟨acts, [], rfl, isRequest, by simp⟩
    · refine ⟨before, after ++ [act], by simp, isRequest, ?_⟩
      rw [List.forall_mem_append]
      exact ⟨undisturbed, by simpa using leaves⟩

private theorem awaited_concat_request
    {wait : Binary64} {acts : List Act} {callback : Callback}
    {request : Request Callback} :
    Awaited wait (acts ++ [.request callback]) request ↔
      request = requestAfter wait acts callback := by
  rw [awaited_concat]
  constructor
  · rintro (⟨same, isRequest⟩ | ⟨leaves, -⟩)
    · rwa [Act.request.inj same]
    · contradiction
  · rintro rfl
    exact .inl ⟨rfl, rfl⟩

/-! ## What a debouncer recalls -/

/-- The state of a debouncer with that quiet period, told from the acts. -/
structure Recalls (wait : Binary64) (acts : List Act)
    (debouncer : Debouncer Callback) : Prop where
  waits : debouncer.wait = wait
  now : debouncer.now = lastReading acts
  issued : debouncer.issued = requestCount acts
  pending : ∀ request, debouncer.pending = some request ↔ Awaited wait acts request

private theorem recalls_new (wait : Binary64) : Recalls wait [] (new wait) where
  waits := rfl
  now := rfl
  issued := rfl
  pending := by
    intro request
    exact iff_of_false (by simp [new]) (not_awaited_nil wait request)

namespace Recalls

variable {wait : Binary64} {acts : List Act} {debouncer : Debouncer Callback}

private theorem nextRequest_eq (recalls : Recalls wait acts debouncer) (callback : Callback) :
    debouncer.nextRequest callback = requestAfter wait acts callback := by
  unfold nextRequest requestAfter
  rw [recalls.waits, recalls.now, recalls.issued]

private theorem setClock (recalls : Recalls wait acts debouncer) (reading : Binary64) :
    Recalls wait (acts ++ [.setClock reading]) (debouncer.setClock reading) where
  waits := recalls.waits
  now := (lastReading_concat acts (.setClock reading)).symm
  issued := recalls.issued.trans (requestCount_append acts [.setClock reading]).symm
  pending := by
    intro request
    rw [awaited_concat]
    simpa [Act.displaces, Debouncer.setClock] using recalls.pending request

private theorem request (recalls : Recalls wait acts debouncer) (callback : Callback) :
    Recalls wait (acts ++ [.request callback]) (debouncer.request callback) where
  waits := recalls.waits
  now := recalls.now.trans (lastReading_concat acts (.request callback)).symm
  issued := by
    rw [requestCount_append, ← recalls.issued]
    rfl
  pending := by
    intro request
    rw [awaited_concat_request, pending_request, recalls.nextRequest_eq,
      Option.some_inj, eq_comm]

private theorem requestAll (recalls : Recalls wait acts debouncer) (callbacks : List Callback) :
    Recalls wait (acts ++ callbacks.map .request) (debouncer.requestAll callbacks) := by
  induction callbacks generalizing acts debouncer with
  | nil => simpa [Debouncer.requestAll] using recalls
  | cons callback later inductionHypothesis =>
      have followed := inductionHypothesis (recalls.request callback)
      rw [List.append_assoc] at followed
      exact followed

/-- Nothing is pending after an act that only takes a request away. -/
private theorem displaced
    (recalls : Recalls wait acts debouncer)
    {act : Act}
    (displaces : act.displaces = true)
    (requestsNone : act.isRequest = false) :
    Recalls wait (acts ++ [act]) debouncer.cancel where
  waits := recalls.waits
  now := by
    have none : act.reading? = none := by cases act <;> trivial
    rw [lastReading_concat, none]
    exact recalls.now
  issued := by
    have none : requestCount [act] = 0 := by simp [requestCount, requestsNone]
    rw [requestCount_append, none]
    exact recalls.issued
  pending := by
    intro request
    have notMade : act ≠ .request request.task := by
      rintro rfl
      contradiction
    rw [awaited_concat]
    simp [displaces, notMade]

private theorem start
    (recalls : Recalls wait acts debouncer)
    {taken : Option (Request Callback × Debouncer Callback)}
    (takes : ∀ pair, taken = some pair → debouncer.flush? = some pair) :
    Recalls wait (acts ++ Act.ofStarted (debouncer.start taken).started)
      (debouncer.start taken).debouncer := by
  cases taken with
  | none => simpa [Debouncer.start, Act.ofStarted] using recalls
  | some pair =>
      obtain ⟨request, _, rfl⟩ := Option.map_eq_some_iff.mp (takes pair rfl)
      have idle : Recalls wait (acts ++ [.start request]) debouncer.cancel :=
        recalls.displaced rfl rfl
      -- The callback's requests follow its start, when nothing is pending.
      have started := idle.requestAll request.task.requests
      rw [List.append_assoc] at started
      exact started

private theorem perform (recalls : Recalls wait acts debouncer) (event : Event) :
    Recalls wait (acts ++ debouncer.actsAt event) (debouncer.perform event).debouncer := by
  cases event with
  | setClock reading => exact recalls.setClock reading
  | request callback => exact recalls.request callback
  | poll => exact recalls.start fun _ => flush?_of_poll?
  | flush => exact recalls.start fun _ flushed => flushed
  | cancel => exact recalls.displaced rfl rfl

private theorem afterAll (recalls : Recalls wait acts debouncer) (events : List Event) :
    Recalls wait (acts ++ debouncer.acts events) (debouncer.afterAll events) := by
  induction events generalizing acts debouncer with
  | nil => simpa [Debouncer.acts, Debouncer.afterAll] using recalls
  | cons event later inductionHypothesis =>
      have followed := inductionHypothesis (recalls.perform event)
      rw [List.append_assoc] at followed
      exact followed

end Recalls

private theorem recalls_afterAll (wait : Binary64) (events : List Event) :
    Recalls wait ((new wait).acts events) ((new wait).afterAll events) := by
  simpa using (recalls_new wait).afterAll events

/-! ## What is run -/

private theorem start_started
    (debouncer : Debouncer Callback)
    (taken : Option (Request Callback × Debouncer Callback)) :
    (debouncer.start taken).started = taken.map Prod.fst := by
  cases taken <;> rfl

private theorem start_answer
    (debouncer : Debouncer Callback)
    (taken : Option (Request Callback × Debouncer Callback)) :
    (debouncer.start taken).answer =
      .ran (debouncer.start taken).started.isSome := by
  cases taken <;> rfl

private theorem started_flush_iff (debouncer : Debouncer Callback) (request : Request Callback) :
    (debouncer.perform .flush).started = some request ↔
      debouncer.pending = some request := by
  rw [perform, start_started]
  simp [flush?]

private theorem started_poll_iff (debouncer : Debouncer Callback) (request : Request Callback) :
    (debouncer.perform .poll).started = some request ↔
      debouncer.pending = some request ∧ debouncer.now.less request.due = false := by
  cases isPending : debouncer.pending with
  | none => simp [perform, start_started, poll?, isPending]
  | some pending =>
      have polled : debouncer.poll? =
          if debouncer.now.less pending.due then none
          else some (pending, debouncer.cancel) := by
        simp [poll?, flush?, isPending]
      rw [perform, start_started, polled, Option.some_inj]
      split
      · rename_i early
        refine iff_of_false (by simp) ?_
        rintro ⟨rfl, late⟩
        rw [early] at late
        contradiction
      · rename_i late
        rw [Option.map_some, Option.some_inj]
        constructor
        · rintro rfl
          exact ⟨rfl, eq_false_of_ne_true late⟩
        · exact And.left

/-- Requests made in turn are numbered on. -/
private theorem issued_requestAllNotes
    (debouncer : Debouncer Callback)
    (callbacks : List Callback) :
    ids .issued (debouncer.requestAllNotes callbacks) =
      List.range' (debouncer.issued + 1) callbacks.length := by
  induction callbacks generalizing debouncer with
  | nil => rfl
  | cons callback later inductionHypothesis =>
      simp [requestAllNotes, requestNotes, inductionHypothesis, nextRequest,
        List.range'_succ]

/-- Of requests made in turn the last stays pending, due a quiet period from now. -/
theorem Recalls.pending_requestAll
    {wait : Binary64} {acts : List Act} {debouncer : Debouncer Callback}
    (recalls : Recalls wait acts debouncer)
    (idle : debouncer.pending = none)
    (callbacks : List Callback) :
    (debouncer.requestAll callbacks).pending =
      callbacks.getLast?.map
        (⟨requestCount acts + callbacks.length, (lastReading acts).add wait, ·⟩) := by
  rcases List.eq_nil_or_concat' callbacks with rfl | ⟨earlier, next, rfl⟩
  · exact idle
  · have before := recalls.requestAll earlier
    rw [Debouncer.requestAll, List.foldl_concat, ← Debouncer.requestAll,
      pending_request, before.nextRequest_eq]
    simp [requestAfter, lastReading_append_requests, Nat.add_assoc]

/-- What a started callback requests is numbered on and outlives the event. -/
theorem Recalls.of_started
    {wait : Binary64} {acts : List Act} {debouncer : Debouncer Callback}
    (recalls : Recalls wait acts debouncer)
    {taken : Option (Request Callback × Debouncer Callback)}
    (takes : ∀ pair, taken = some pair → debouncer.flush? = some pair)
    {request : Request Callback}
    (started : (debouncer.start taken).started = some request) :
    ids .issued (startNotes taken) =
        List.range' (requestCount acts + 1) request.task.requests.length ∧
      request.id ≤ requestCount acts ∧
      (debouncer.start taken).debouncer.pending =
        request.task.requests.getLast?.map
          (⟨requestCount acts + request.task.requests.length,
            (lastReading acts).add wait, ·⟩) := by
  rw [start_started, Option.map_eq_some_iff] at started
  obtain ⟨⟨_, rest⟩, rfl, rfl⟩ := started
  obtain ⟨pending, isPending, pair⟩ := Option.map_eq_some_iff.mp (takes _ rfl)
  obtain ⟨rfl, rfl⟩ := Prod.mk.inj pair
  have idle : Recalls wait (acts ++ [.start pending]) debouncer.cancel :=
    recalls.displaced rfl rfl
  have counted : requestCount (acts ++ [.start pending]) = requestCount acts :=
    requestCount_append acts [.start pending]
  have reading : lastReading (acts ++ [.start pending]) = lastReading acts :=
    lastReading_concat acts (.start pending)
  refine ⟨?_, ((recalls.pending pending).mp isPending).id_le, ?_⟩
  · show ids .issued (⟨.started, pending.id⟩ :: debouncer.cancel.requestAllNotes _) = _
    rw [ids_cons, if_neg nofun, issued_requestAllNotes, idle.issued, counted]
  · show (debouncer.cancel.requestAll pending.task.requests).pending = _
    rw [idle.pending_requestAll rfl, counted, reading]

/-- After every run, whatever the clock readings and the quiet period, a poll runs the
awaited request unless the last reading is below its due time, and a flush runs it in
any case.  Either runs at most one callback and answers whether it ran one.  What that
callback requests is handed the next numbers; the last of it stays pending, due a quiet
period from the last reading. -/
theorem runs_what_is_awaited (wait : Binary64) (events : List Event) :
    let acts := (new wait).acts events
    let debouncer := (new wait).afterAll events
    (∀ request, (debouncer.perform .poll).started = some request ↔
        Awaited wait acts request ∧ (lastReading acts).less request.due = false) ∧
      (∀ request, (debouncer.perform .flush).started = some request ↔
        Awaited wait acts request) ∧
      ∀ event ∈ [Event.poll, Event.flush],
        let outcome := debouncer.perform event
        let notes := debouncer.notes event
        outcome.answer = .ran outcome.started.isSome ∧
          (ids .started notes).length ≤ 1 ∧
          ∀ request, outcome.started = some request →
            ids .started notes = [request.id] ∧
              ids .issued notes =
                List.range' (requestCount acts + 1) request.task.requests.length ∧
              request.id ≤ requestCount acts ∧
              outcome.debouncer.pending =
                request.task.requests.getLast?.map
                  (⟨requestCount acts + request.task.requests.length,
                    (lastReading acts).add wait, ·⟩) := by
  intro acts debouncer
  have recalls : Recalls wait acts debouncer := recalls_afterAll wait events
  refine ⟨?_, ?_, ?_⟩
  · intro request
    rw [started_poll_iff, recalls.pending, recalls.now]
  · intro request
    rw [started_flush_iff, recalls.pending]
  · intro event member outcome notes
    have startedNotes : outcome.startedIds = ids .started notes :=
      started_perform debouncer event
    have ofTaken : ∃ taken, outcome = debouncer.start taken ∧ notes = startNotes taken ∧
        ∀ pair, taken = some pair → debouncer.flush? = some pair := by
      rcases List.mem_pair.mp member with rfl | rfl
      · exact ⟨debouncer.poll?, rfl, rfl, fun _ => flush?_of_poll?⟩
      · exact ⟨debouncer.flush?, rfl, rfl, fun _ flushed => flushed⟩
    obtain ⟨taken, isStart, isNotes, takes⟩ := ofTaken
    refine ⟨?_, ?_, ?_⟩
    · rw [isStart]
      exact start_answer debouncer taken
    · rw [← startedNotes]
      unfold Outcome.startedIds
      cases outcome.started <;> simp
    · intro request started
      refine ⟨?_, ?_⟩
      · rw [← startedNotes, Outcome.startedIds, started]
        rfl
      · rw [isStart] at started ⊢
        rw [isNotes]
        exact recalls.of_started takes started

/-- With a negative quiet period and a clock that is set back, a chained callback is
overdue when it is requested, and still waits for another poll. -/
theorem runs_what_is_awaited_overdue :
    let wait := Binary64.round true 1 1
    let three := Binary64.round false 3 1
    let four := Binary64.round false 4 1
    let five := Binary64.round false 5 1
    let next := Callback.chain "b".toList []
    let first := Callback.chain "a".toList ["b".toList]
    let events : List Event := [.setClock five, .request first, .setClock four]
    let outcome := ((new wait).afterAll events).perform .poll
    outcome.started = some ⟨1, four, first⟩ ∧ outcome.answer = .ran true ∧
      outcome.debouncer.pending = some ⟨2, three, next⟩ ∧ four.less three = false := by
  intro wait three four five next first events outcome
  have due : five.add wait = four := by decide +kernel
  have nextDue : four.add wait = three := by decide +kernel
  have onTime : four.less four = false := by decide +kernel
  have overdue : four.less three = false := by decide +kernel
  -- The numbers are not computed again.
  clear_value wait three four five
  have made : ⟨1, four, first⟩ = requestAfter wait [.setClock five] first :=
    congrArg (Request.mk 1 · first) due.symm
  have awaited : Awaited wait ((new wait).acts events) ⟨1, four, first⟩ :=
    ⟨[.setClock five], [.setClock four], rfl, made, by simp [Act.displaces]⟩
  obtain ⟨polled, _, outcomes⟩ := runs_what_is_awaited wait events
  have started : outcome.started = some ⟨1, four, first⟩ :=
    (polled ⟨1, four, first⟩).mpr ⟨awaited, onTime⟩
  obtain ⟨answered, _, left⟩ := outcomes .poll (by simp)
  obtain ⟨_, _, _, pending⟩ := left ⟨1, four, first⟩ started
  refine ⟨started, ?_, ?_, overdue⟩
  · rw [answered, started]
    rfl
  · rw [pending, ← nextDue]
    rfl

end Keypad.Debouncer
