/-
Deferred publication under every timing.

Callers hand events over, callers wait for what was queued before to be published, and one worker takes job after job;
who moves next is open. A world is a dispatcher, a registry and the calls of `flush` in progress; a move is one atomic
thing that somebody does, and what is said holds after every sequence of moves.

- `World.Step`, `World.Runs`: the moves, and what a sequence of them leaves;
- `World.Balance`: what was there and what was queued is what was finished and what is there, in order, with the
  books that go with it; every move balances (`Step.balance`), and so does every sequence of them (`Runs.balance`);
- `Step.work`: after the drop has been called only the worker is left with something to do, and less with every move;
- `World.deferred_in_order`: nothing accepted is lost, repeated or overtaken, whatever is refused is counted, `flush`
  is a barrier and the drop drains the queue;
- `World.dispatch_runs`: `dispatch`, with the worker run as far as it gets, is a sequence of such moves.
-/
import BoardDriver.Proofs.RegistryHistory

namespace BoardDriver

namespace Job

/-- the event that a job publishes -/
def event? : Job → Option Event
  | .publish e => some e
  | .marker _ => none

def name? : Job → Option Nat
  | .publish _ => none
  | .marker n => some n

end Job

namespace Dispatcher

variable {d d' : Dispatcher}

/-- the jobs that are not finished: the one that the worker holds, then those that wait -/
def jobs (d : Dispatcher) : List Job := d.holding.toList ++ d.queue

theorem offer_cases (d : Dispatcher) (j : Job) :
    d.queue.length < d.pool ∧ d.offer j = some { d with queue := d.queue ++ [j] } ∨
      d.pool ≤ d.queue.length ∧ d.offer j = none := by
  unfold offer
  by_cases h : d.queue.length < d.pool
  · exact .inl ⟨h, if_pos h⟩
  · exact .inr ⟨Nat.le_of_not_lt h, if_neg h⟩

theorem accept_cases (d : Dispatcher) (e : Event) :
    d.queue.length < d.pool ∧ d.accept e = (.ok (), { d with queue := d.queue ++ [.publish e] }) ∨
      d.pool ≤ d.queue.length ∧
        d.accept e = (.error (.allocationFailure (.poolExhausted d.pool)), { d with lost := d.lost + 1 }) := by
  unfold accept
  rcases d.offer_cases (.publish e) with ⟨hroom, hoffer⟩ | ⟨hfull, hoffer⟩
  · exact .inl ⟨hroom, by rw [hoffer]⟩
  · exact .inr ⟨hfull, by rw [hoffer]⟩

theorem take_eq_some_iff :
    d.take = some d' ↔
      d.holding = none ∧ ∃ j rest, d.queue = j :: rest ∧ d' = { d with queue := rest, holding := some j } := by
  unfold take
  cases hheld : d.holding with
  | some j => simp
  | none =>
    cases hqueue : d.queue with
    | nil => simp
    | cons j rest => simp [eq_comm]

/-- what the worker leaves of a job that it has finished -/
theorem finish_of_publish {e : Event} (h : d.holding = some (.publish e)) (r : Registry) :
    d.finish r =
      some ({ d with holding := none, pace := if d.pace = .pausing then .paused else d.pace }, (r.publish e).2) := by
  simp [finish, h]

theorem finish_of_marker {n : Nat} (h : d.holding = some (.marker n)) (r : Registry) :
    d.finish r = some ({ d with holding := none }, r) := by
  simp [finish, h]

end Dispatcher

/-- one move of a caller, of the worker or of the rest of the world -/
inductive Move where
  /-- a call of `dispatch`, with its answer -/
  | dispatched (e : Event) (answer : Except Error Unit)
  /-- a call of `flush` begins -/
  | flushCalled (n : Nat)
  /-- its marker finds a place in the queue -/
  | markerQueued (n : Nat)
  /-- the worker takes the job at the head of the queue -/
  | taken
  /-- the worker publishes the event it holds -/
  | published (e : Event)
  /-- the worker gives word to the call of `flush` whose marker it holds -/
  | markerReached (n : Nat)
  | flushReturned (n : Nat)
  /-- somebody else uses the registry -/
  | registryUsed (op : Registry.Op)
  /-- the last owner drops the dispatcher, and waits for the worker -/
  | dropCalled
  | dropReturned

namespace Move

def queued? : Move → Option Job
  | .dispatched e (.ok ()) => some (.publish e)
  | .markerQueued n => some (.marker n)
  | _ => none

def finished? : Move → Option Job
  | .published e => some (.publish e)
  | .markerReached n => some (.marker n)
  | _ => none

def accepted? : Move → Option Event
  | .dispatched e (.ok ()) => some e
  | _ => none

def refused? : Move → Option Event
  | .dispatched e (.error _) => some e
  | _ => none

def published? : Move → Option Event
  | .published e => some e
  | _ => none

def called? : Move → Option Nat
  | .flushCalled n => some n
  | _ => none

/-- what a move does to the registry -/
def registryOp? : Move → Option Registry.Op
  | .published e => some (.publish e)
  | .registryUsed op => some op
  | _ => none

def isWorker : Move → Bool
  | .taken | .published _ | .markerReached _ => true
  | _ => false

theorem queued?_bind_event? (m : Move) : m.queued?.bind Job.event? = m.accepted? := by
  cases m with
  | dispatched e answer => cases answer <;> rfl
  | _ => rfl

theorem finished?_bind_event? (m : Move) : m.finished?.bind Job.event? = m.published? := by
  cases m <;> rfl

end Move

/-- events accepted in a sequence of moves, in order -/
def accepted (ms : List Move) : List Event := ms.filterMap Move.accepted?

def refused (ms : List Move) : List Event := ms.filterMap Move.refused?

/-- events that the worker has published -/
def published (ms : List Move) : List Event := ms.filterMap Move.published?

/-- uses of the registry, by the worker and by others -/
def registryOps (ms : List Move) : List Registry.Op := ms.filterMap Move.registryOp?

def flushCalls (ms : List Move) : List Nat := ms.filterMap Move.called?

def queuedJobs (ms : List Move) : List Job := ms.filterMap Move.queued?

def finishedJobs (ms : List Move) : List Job := ms.filterMap Move.finished?

@[simp] theorem accepted_append (ms ns : List Move) : accepted (ms ++ ns) = accepted ms ++ accepted ns :=
  List.filterMap_append ..

@[simp] theorem refused_append (ms ns : List Move) : refused (ms ++ ns) = refused ms ++ refused ns :=
  List.filterMap_append ..

@[simp] theorem published_append (ms ns : List Move) : published (ms ++ ns) = published ms ++ published ns :=
  List.filterMap_append ..

@[simp] theorem registryOps_append (ms ns : List Move) : registryOps (ms ++ ns) = registryOps ms ++ registryOps ns :=
  List.filterMap_append ..

@[simp] theorem flushCalls_append (ms ns : List Move) : flushCalls (ms ++ ns) = flushCalls ms ++ flushCalls ns :=
  List.filterMap_append ..

@[simp] theorem queuedJobs_append (ms ns : List Move) : queuedJobs (ms ++ ns) = queuedJobs ms ++ queuedJobs ns :=
  List.filterMap_append ..

@[simp] theorem finishedJobs_append (ms ns : List Move) :
    finishedJobs (ms ++ ns) = finishedJobs ms ++ finishedJobs ns :=
  List.filterMap_append ..

theorem event?_queuedJobs (ms : List Move) : (queuedJobs ms).filterMap Job.event? = accepted ms := by
  unfold queuedJobs accepted
  rw [List.filterMap_filterMap]
  exact congrArg (List.filterMap · ms) (funext Move.queued?_bind_event?)

theorem event?_finishedJobs (ms : List Move) : (finishedJobs ms).filterMap Job.event? = published ms := by
  unfold finishedJobs published
  rw [List.filterMap_filterMap]
  exact congrArg (List.filterMap · ms) (funext Move.finished?_bind_event?)

/-- a dispatcher, the registry it publishes to, and who waits for it -/
structure World where
  dispatcher : Dispatcher
  registry : Registry
  /-- calls of `flush` so far; each goes by its number -/
  calls : Nat := 0
  /-- calls whose marker has found no place yet -/
  blocked : List Nat := []
  /-- calls whose marker the worker has not come to -/
  awaiting : List Nat := []
  /-- calls that have had word from the worker and have not returned -/
  released : List Nat := []
  closed : Bool := false
  gone : Bool := false

namespace World

/-- what a move makes of the world. Dropping takes the last reference, so it finds no call in progress and none comes
after it; it returns when the worker is through with the queue. -/
inductive Step : World → Move → World → Prop where
  | dispatched {w : World} (e : Event) (hopen : w.closed = false) :
      Step w (.dispatched e (w.dispatcher.accept e).1) { w with dispatcher := (w.dispatcher.accept e).2 }
  | flushCalled {w : World} (hopen : w.closed = false) :
      Step w (.flushCalled w.calls) { w with calls := w.calls + 1, blocked := w.blocked ++ [w.calls] }
  | markerQueued {w : World} {n : Nat} {d : Dispatcher} (hcall : n ∈ w.blocked)
      (hplace : w.dispatcher.offer (.marker n) = some d) :
      Step w (.markerQueued n)
        { w with dispatcher := d, blocked := w.blocked.erase n, awaiting := w.awaiting ++ [n] }
  | taken {w : World} {d : Dispatcher} (htake : w.dispatcher.take = some d) : Step w .taken { w with dispatcher := d }
  | published {w : World} {e : Event} {d : Dispatcher} {r : Registry} (hjob : w.dispatcher.holding = some (.publish e))
      (hfinish : w.dispatcher.finish w.registry = some (d, r)) :
      Step w (.published e) { w with dispatcher := d, registry := r }
  | markerReached {w : World} {n : Nat} {d : Dispatcher} {r : Registry} (hjob : w.dispatcher.holding = some (.marker n))
      (hfinish : w.dispatcher.finish w.registry = some (d, r)) :
      Step w (.markerReached n)
        { w with dispatcher := d, registry := r, awaiting := w.awaiting.erase n, released := w.released ++ [n] }
  | flushReturned {w : World} {n : Nat} (hword : n ∈ w.released) :
      Step w (.flushReturned n) { w with released := w.released.erase n }
  | registryUsed {w : World} (op : Registry.Op) : Step w (.registryUsed op) { w with registry := w.registry.step op }
  | dropCalled {w : World} (hopen : w.closed = false) (hblocked : w.blocked = []) (hawaiting : w.awaiting = [])
      (hreleased : w.released = []) : Step w .dropCalled { w with closed := true }
  | dropReturned {w : World} (hclosed : w.closed = true) (hhere : w.gone = false) (hdone : w.dispatcher.jobs = []) :
      Step w .dropReturned { w with gone := true }

def Runs (w : World) : List Move → World → Prop
  | [], w' => w' = w
  | m :: ms, w' => ∃ v, Step w m v ∧ Runs v ms w'

variable {w w' v : World} {m : Move} {ms ns : List Move}

theorem runs_append_iff : Runs w (ms ++ ns) w' ↔ ∃ v, Runs w ms v ∧ Runs v ns w' := by
  induction ms generalizing w with
  | nil => simp [Runs]
  | cons m ms ih =>
    simp only [List.cons_append, Runs, ih]
    constructor
    · rintro ⟨u, hstep, v, hms, hns⟩
      exact ⟨v, ⟨u, hstep, hms⟩, hns⟩
    · rintro ⟨v, ⟨u, hstep, hms⟩, hns⟩
      exact ⟨u, hstep, v, hms, hns⟩

theorem runs_singleton_iff : Runs w [m] w' ↔ Step w m w' := by
  simp [Runs]

/-- the books over a sequence of moves -/
structure Balance (w : World) (ms : List Move) (w' : World) : Prop where
  /-- jobs are finished in the order in which they were queued -/
  jobs : finishedJobs ms ++ w'.dispatcher.jobs = w.dispatcher.jobs ++ queuedJobs ms
  pool : w'.dispatcher.pool = w.dispatcher.pool
  lost : w'.dispatcher.lost = w.dispatcher.lost + UInt64.ofNat (refused ms).length
  registry : w'.registry = w.registry.run (registryOps ms)
  /-- calls of `flush` are numbered on -/
  numbers : flushCalls ms = List.range' w.calls (flushCalls ms).length ∧ w'.calls = w.calls + (flushCalls ms).length
  /-- a call that has begun is blocked until it has queued its marker -/
  calls : (w'.blocked ++ (queuedJobs ms).filterMap Job.name?).Perm (w.blocked ++ flushCalls ms)
  /-- a call has had word only if the worker has come to its marker -/
  released : ∀ n ∈ w'.released, n ∈ w.released ∨ .marker n ∈ finishedJobs ms

theorem Balance.refl (w : World) : Balance w [] w where
  jobs := (List.append_nil _).symm
  pool := rfl
  lost := (UInt64.add_zero _).symm
  registry := rfl
  numbers := ⟨rfl, rfl⟩
  calls := List.Perm.refl _
  released _ hn := .inl hn

theorem Balance.trans (h : Balance w ms v) (h' : Balance v ns w') : Balance w (ms ++ ns) w' where
  jobs := by
    calc finishedJobs (ms ++ ns) ++ w'.dispatcher.jobs
      _ = finishedJobs ms ++ (finishedJobs ns ++ w'.dispatcher.jobs) := by
        rw [finishedJobs_append, List.append_assoc]
      _ = (finishedJobs ms ++ v.dispatcher.jobs) ++ queuedJobs ns := by rw [h'.jobs, List.append_assoc]
      _ = w.dispatcher.jobs ++ queuedJobs (ms ++ ns) := by rw [h.jobs, queuedJobs_append, List.append_assoc]
  pool := h'.pool.trans h.pool
  lost := by rw [h'.lost, h.lost, refused_append, List.length_append, UInt64.ofNat_add, UInt64.add_assoc]
  registry := by rw [h'.registry, h.registry, registryOps_append, Registry.run_append]
  numbers := by
    obtain ⟨hms, hv⟩ := h.numbers
    obtain ⟨hns, hw'⟩ := h'.numbers
    rw [flushCalls_append, List.length_append, ← List.range'_append_1, ← hv, ← hms, ← hns]
    exact ⟨rfl, by omega⟩
  calls := by
    have hms := h.calls
    have hns := h'.calls
    rw [queuedJobs_append, flushCalls_append, List.filterMap_append]
    generalize (queuedJobs ms).filterMap Job.name? = early at hms ⊢
    generalize (queuedJobs ns).filterMap Job.name? = late at hns ⊢
    calc (w'.blocked ++ (early ++ late)).Perm (w'.blocked ++ (late ++ early)) :=
          List.perm_append_comm.append_left _
      _ = (w'.blocked ++ late) ++ early := (List.append_assoc ..).symm
      List.Perm _ ((v.blocked ++ flushCalls ns) ++ early) := hns.append_right _
      _ = v.blocked ++ (flushCalls ns ++ early) := List.append_assoc ..
      List.Perm _ (v.blocked ++ (early ++ flushCalls ns)) := List.perm_append_comm.append_left _
      _ = (v.blocked ++ early) ++ flushCalls ns := (List.append_assoc ..).symm
      List.Perm _ ((w.blocked ++ flushCalls ms) ++ flushCalls ns) := hms.append_right _
      _ = w.blocked ++ (flushCalls ms ++ flushCalls ns) := List.append_assoc ..
  released n hn := by
    rw [finishedJobs_append, List.mem_append]
    rcases h'.released n hn with hn | hn
    · exact (h.released n hn).imp_right .inl
    · exact .inr (.inr hn)

/-- every move balances -/
theorem Step.balance (h : Step w m w') : Balance w [m] w' := by
  have hnone : w.dispatcher.lost = w.dispatcher.lost + UInt64.ofNat 0 := (UInt64.add_zero _).symm
  cases h with
  | dispatched e hopen =>
    rcases w.dispatcher.accept_cases e with ⟨-, haccept⟩ | ⟨-, haccept⟩
    · rw [haccept]
      exact ⟨(List.append_assoc w.dispatcher.holding.toList w.dispatcher.queue [.publish e]).symm, rfl, hnone,
        rfl, ⟨rfl, rfl⟩, List.Perm.refl _, fun n hn => .inl hn⟩
    · rw [haccept]
      exact ⟨(List.append_nil _).symm, rfl, rfl, rfl, ⟨rfl, rfl⟩, List.Perm.refl _, fun n hn => .inl hn⟩
  | flushCalled hopen =>
    refine ⟨(List.append_nil _).symm, rfl, hnone, rfl, ⟨rfl, rfl⟩, ?_, fun n hn => .inl hn⟩
    exact .of_eq (List.append_nil _)
  | @markerQueued n d hcall hplace =>
    rcases w.dispatcher.offer_cases (.marker n) with ⟨-, hoffer⟩ | ⟨-, hoffer⟩
    · cases hoffer.symm.trans hplace
      refine ⟨(List.append_assoc w.dispatcher.holding.toList w.dispatcher.queue [.marker n]).symm, rfl, hnone,
        rfl, ⟨rfl, rfl⟩, ?_, fun n hn => .inl hn⟩
      have hmoved : (w.blocked.erase n ++ [n]).Perm w.blocked :=
        List.perm_append_comm.trans (List.perm_cons_erase hcall).symm
      exact hmoved.trans (.of_eq (List.append_nil _).symm)
    · cases hoffer.symm.trans hplace
  | taken htake =>
    obtain ⟨hfree, j, rest, hqueue, rfl⟩ := Dispatcher.take_eq_some_iff.1 htake
    refine ⟨?_, rfl, hnone, rfl, ⟨rfl, rfl⟩, List.Perm.refl _, fun n hn => .inl hn⟩
    change [j] ++ rest = w.dispatcher.jobs ++ []
    rw [Dispatcher.jobs, hfree, hqueue, List.append_nil]
    rfl
  | @published e d r hjob hfinish =>
    cases (Dispatcher.finish_of_publish hjob _).symm.trans hfinish
    refine ⟨?_, rfl, hnone, rfl, ⟨rfl, rfl⟩, List.Perm.refl _, fun n hn => .inl hn⟩
    change [.publish e] ++ w.dispatcher.queue = w.dispatcher.jobs ++ []
    rw [Dispatcher.jobs, hjob, List.append_nil]
    rfl
  | @markerReached n d r hjob hfinish =>
    cases (Dispatcher.finish_of_marker hjob _).symm.trans hfinish
    refine ⟨?_, rfl, hnone, rfl, ⟨rfl, rfl⟩, List.Perm.refl _, ?_⟩
    · change [.marker n] ++ w.dispatcher.queue = w.dispatcher.jobs ++ []
      rw [Dispatcher.jobs, hjob, List.append_nil]
      rfl
    · intro k hk
      rcases List.mem_append.1 hk with hk | hk
      · exact .inl hk
      · rw [List.mem_singleton.1 hk]
        exact .inr (List.mem_singleton_self _)
  | flushReturned hword =>
    exact ⟨(List.append_nil _).symm, rfl, hnone, rfl, ⟨rfl, rfl⟩, List.Perm.refl _,
      fun n hn => .inl (List.mem_of_mem_erase hn)⟩
  | registryUsed | dropCalled | dropReturned =>
    exact ⟨(List.append_nil _).symm, rfl, hnone, rfl, ⟨rfl, rfl⟩, List.Perm.refl _, fun n hn => .inl hn⟩

theorem Runs.balance (h : Runs w ms w') : Balance w ms w' := by
  induction ms generalizing w with
  | nil =>
    subst h
    exact .refl _
  | cons m ms ih =>
    obtain ⟨v, hstep, hrest⟩ := h
    exact hstep.balance.trans (ih hrest)

/-- nothing more waits than there are places, and once the drop has been called nobody is in the middle of a call -/
structure Sound (w : World) : Prop where
  bound : w.dispatcher.queue.length ≤ w.dispatcher.pool
  closed : w.closed = true → w.blocked = []
  gone : w.gone = true → w.closed = true ∧ w.dispatcher.jobs = []

/-- after the drop has been called, nothing is queued any more -/
theorem Step.of_closed (h : Step w m w') (hclosed : w.closed = true) (hblocked : w.blocked = []) :
    w'.closed = true ∧ w'.blocked = [] ∧ m.queued? = none := by
  cases h with
  | dispatched e hopen => exact absurd (hopen.symm.trans hclosed) Bool.false_ne_true
  | flushCalled hopen => exact absurd (hopen.symm.trans hclosed) Bool.false_ne_true
  | markerQueued hcall => exact absurd (hblocked ▸ hcall) List.not_mem_nil
  | dropCalled hopen => exact absurd (hopen.symm.trans hclosed) Bool.false_ne_true
  | taken | published | markerReached | flushReturned | registryUsed | dropReturned =>
    exact ⟨hclosed, hblocked, rfl⟩

theorem Step.sound (h : Step w m w') (hs : w.Sound) : w'.Sound where
  bound := by
    cases h with
    | dispatched e hopen =>
      rcases w.dispatcher.accept_cases e with ⟨hroom, haccept⟩ | ⟨-, haccept⟩
      · simp only [haccept, List.length_append, List.length_singleton]
        exact hroom
      · simp only [haccept]
        exact hs.bound
    | markerQueued hcall hplace =>
      rcases w.dispatcher.offer_cases (.marker _) with ⟨hroom, hoffer⟩ | ⟨-, hoffer⟩
      · cases hoffer.symm.trans hplace
        simp only [List.length_append, List.length_singleton]
        exact hroom
      · cases hoffer.symm.trans hplace
    | taken htake =>
      obtain ⟨-, j, rest, hqueue, rfl⟩ := Dispatcher.take_eq_some_iff.1 htake
      have hbound := hs.bound
      rw [hqueue, List.length_cons] at hbound
      exact Nat.le_of_succ_le hbound
    | published hjob hfinish =>
      cases (Dispatcher.finish_of_publish hjob _).symm.trans hfinish
      exact hs.bound
    | markerReached hjob hfinish =>
      cases (Dispatcher.finish_of_marker hjob _).symm.trans hfinish
      exact hs.bound
    | flushCalled | flushReturned | registryUsed | dropCalled | dropReturned => exact hs.bound
  closed := by
    intro hclosed
    cases h with
    | dropCalled hopen hblocked => exact hblocked
    | dispatched e hopen => exact absurd (hopen.symm.trans hclosed) Bool.false_ne_true
    | flushCalled hopen => exact absurd (hopen.symm.trans hclosed) Bool.false_ne_true
    | markerQueued hcall => exact absurd (hs.closed hclosed ▸ hcall) List.not_mem_nil
    | taken | published | markerReached | flushReturned | registryUsed | dropReturned => exact hs.closed hclosed
  gone := by
    intro hgone
    cases h with
    | dispatched e hopen => exact absurd (hopen.symm.trans (hs.gone hgone).1) Bool.false_ne_true
    | flushCalled hopen => exact hs.gone hgone
    | dropReturned hclosed hhere hdone => exact ⟨hclosed, hdone⟩
    | flushReturned | registryUsed => exact hs.gone hgone
    | dropCalled hopen => exact absurd (hopen.symm.trans (hs.gone hgone).1) Bool.false_ne_true
    | markerQueued hcall => exact absurd (hs.closed (hs.gone hgone).1 ▸ hcall) List.not_mem_nil
    | taken htake =>
      obtain ⟨-, j, rest, hqueue, -⟩ := Dispatcher.take_eq_some_iff.1 htake
      have hempty := (hs.gone hgone).2
      simp [Dispatcher.jobs, hqueue] at hempty
    | published hjob =>
      have hempty := (hs.gone hgone).2
      simp [Dispatcher.jobs, hjob] at hempty
    | markerReached hjob =>
      have hempty := (hs.gone hgone).2
      simp [Dispatcher.jobs, hjob] at hempty

theorem Runs.sound (h : Runs w ms w') (hs : w.Sound) : w'.Sound := by
  induction ms generalizing w with
  | nil => exact h.symm ▸ hs
  | cons m ms ih =>
    obtain ⟨v, hstep, hrest⟩ := h
    exact ih hrest (hstep.sound hs)

/-! ## The end -/

/-- what is left for the worker: two moves for each job that waits, one for the job it holds -/
def work (w : World) : Nat := 2 * w.dispatcher.queue.length + w.dispatcher.holding.toList.length

/-- after the drop has been called, only the worker has something to do, and less with each of its moves -/
theorem Step.work (h : Step w m w') (hclosed : w.closed = true) (hblocked : w.blocked = []) :
    [m].countP Move.isWorker + w'.work = w.work := by
  cases h with
  | dispatched e hopen => exact absurd (hopen.symm.trans hclosed) Bool.false_ne_true
  | flushCalled hopen => exact absurd (hopen.symm.trans hclosed) Bool.false_ne_true
  | markerQueued hcall => exact absurd (hblocked ▸ hcall) List.not_mem_nil
  | taken htake =>
    obtain ⟨hfree, j, rest, hqueue, rfl⟩ := Dispatcher.take_eq_some_iff.1 htake
    change 1 + (2 * rest.length + 1) = 2 * w.dispatcher.queue.length + w.dispatcher.holding.toList.length
    rw [hfree, hqueue, List.length_cons]
    change _ = 2 * (rest.length + 1) + 0
    omega
  | published hjob hfinish =>
    cases (Dispatcher.finish_of_publish hjob _).symm.trans hfinish
    change 1 + (2 * w.dispatcher.queue.length + 0) = 2 * w.dispatcher.queue.length + w.dispatcher.holding.toList.length
    rw [hjob]
    change _ = _ + 1
    omega
  | markerReached hjob hfinish =>
    cases (Dispatcher.finish_of_marker hjob _).symm.trans hfinish
    change 1 + (2 * w.dispatcher.queue.length + 0) = 2 * w.dispatcher.queue.length + w.dispatcher.holding.toList.length
    rw [hjob]
    change _ = _ + 1
    omega
  | flushReturned | registryUsed | dropCalled | dropReturned => exact Nat.zero_add _

/-- whatever else happens after the drop has been called, nothing is accepted and the worker works off what is there -/
theorem Runs.of_closed (h : Runs w ms w') (hclosed : w.closed = true) (hblocked : w.blocked = []) :
    w'.closed = true ∧ queuedJobs ms = [] ∧ ms.countP Move.isWorker + w'.work = w.work := by
  induction ms generalizing w with
  | nil => exact h.symm ▸ ⟨hclosed, rfl, Nat.zero_add _⟩
  | cons m ms ih =>
    obtain ⟨v, hstep, hrest⟩ := h
    obtain ⟨hvclosed, hvblocked, hnone⟩ := hstep.of_closed hclosed hblocked
    obtain ⟨hlast, hqueued, hwork⟩ := ih hrest hvclosed hvblocked
    have hfirst := hstep.work hclosed hblocked
    refine ⟨hlast, (List.filterMap_cons_none hnone).trans hqueued, ?_⟩
    rw [← List.singleton_append, List.countP_append]
    omega

/-- as long as the drop has not returned, either the worker can move or the drop can return -/
theorem can_move (hclosed : w.closed = true) (hhere : w.gone = false) :
    ∃ m v, Step w m v ∧ (m.isWorker = true ∨ m = .dropReturned) := by
  cases hheld : w.dispatcher.holding with
  | some j =>
    cases j with
    | publish e => exact ⟨_, _, .published hheld (Dispatcher.finish_of_publish hheld _), .inl rfl⟩
    | marker n => exact ⟨_, _, .markerReached hheld (Dispatcher.finish_of_marker hheld _), .inl rfl⟩
  | none =>
    cases hqueue : w.dispatcher.queue with
    | nil => exact ⟨_, _, .dropReturned hclosed hhere (by simp [Dispatcher.jobs, hheld, hqueue]), .inr rfl⟩
    | cons j rest =>
      exact ⟨_, _, .taken (Dispatcher.take_eq_some_iff.2 ⟨hheld, j, rest, hqueue, rfl⟩), .inl rfl⟩

/-! ## From the start -/

def start (d : Dispatcher) (r : Registry) : World := { dispatcher := d, registry := r }

variable {pool : Nat} {d : Dispatcher} {r : Registry}

theorem start_eq (h : Dispatcher.start pool = .ok d) : 0 < pool ∧ d = { pool := pool } := by
  unfold Dispatcher.start at h
  split at h
  case isTrue => cases h
  case isFalse hpool =>
    cases h
    exact ⟨Nat.pos_of_ne_zero hpool, rfl⟩

theorem sound_start (h : Dispatcher.start pool = .ok d) (r : Registry) : (start d r).Sound := by
  obtain ⟨-, rfl⟩ := start_eq h
  exact ⟨Nat.zero_le _, fun _ => rfl, fun h => absurd h Bool.false_ne_true⟩

/-- jobs are finished in the order in which they were queued -/
theorem Runs.finished (h : Dispatcher.start pool = .ok d) (hrun : Runs (start d r) ms w) :
    finishedJobs ms ++ w.dispatcher.jobs = queuedJobs ms := by
  obtain ⟨-, rfl⟩ := start_eq h
  exact hrun.balance.jobs

/-- no two markers have one name -/
theorem Runs.nodup_markers (hrun : Runs (start d r) ms w) : ((queuedJobs ms).filterMap Job.name?).Nodup := by
  have hcalls : (flushCalls ms).Nodup := by
    rw [hrun.balance.numbers.1]
    exact List.nodup_range'
  have hperm : (w.blocked ++ (queuedJobs ms).filterMap Job.name?).Perm (flushCalls ms) := hrun.balance.calls
  exact (List.nodup_append.1 (hperm.nodup_iff.2 hcalls)).2.1

/-- a prefix that has come to a place is at least as long as what is before it -/
theorem prefix_of_mem {α : Type} {before after reached : List α} {a : α} (h : reached <+: before ++ a :: after)
    (hmem : a ∈ reached) (hfirst : a ∉ before) : before <+: reached := by
  rcases List.prefix_or_prefix_of_prefix h (List.prefix_append before (a :: after)) with hle | hle
  · exact absurd (hle.subset hmem) hfirst
  · exact hle

theorem eq_markerQueued_of_queued? {n : Nat} (h : m.queued? = some (.marker n)) : m = .markerQueued n := by
  cases m with
  | dispatched e answer => cases answer <;> cases h
  | markerQueued k =>
    cases h
    rfl
  | flushCalled | taken | published | markerReached | flushReturned | registryUsed | dropCalled | dropReturned =>
    cases h

/-- when a call of `flush` returns, its marker has been queued, and all that was accepted before has been published -/
theorem Runs.flushed (h : Dispatcher.start pool = .ok d) {before after : List Move} {n : Nat}
    (hrun : Runs (start d r) (before ++ .flushReturned n :: after) w) :
    (∃ first middle, before = first ++ .markerQueued n :: middle) ∧
      ∀ first middle, before = first ++ .markerQueued n :: middle → accepted first <+: published before := by
  obtain ⟨v, hbefore, u, hreturn, -⟩ := runs_append_iff.1 hrun
  have hjobs := hbefore.finished h
  have hfinished : .marker n ∈ finishedJobs before := by
    cases hreturn with
    | flushReturned hword => exact (hbefore.balance.released n hword).resolve_left List.not_mem_nil
  have hsofar : finishedJobs before <+: queuedJobs before := ⟨_, hjobs⟩
  constructor
  · obtain ⟨m, hm, hqueued⟩ := List.mem_filterMap.1 (hsofar.subset hfinished)
    obtain ⟨first, middle, hsplit⟩ := List.append_of_mem hm
    exact ⟨first, middle, eq_markerQueued_of_queued? hqueued ▸ hsplit⟩
  · rintro first middle rfl
    have hqueued : queuedJobs (first ++ .markerQueued n :: middle) =
        queuedJobs first ++ .marker n :: queuedJobs middle :=
      queuedJobs_append first (.markerQueued n :: middle)
    have hnodup := hbefore.nodup_markers
    have hnew : .marker n ∉ queuedJobs first := by
      intro hold
      have hname : n ∈ (queuedJobs first).filterMap Job.name? := List.mem_filterMap.2 ⟨_, hold, rfl⟩
      rw [hqueued, List.filterMap_append] at hnodup
      exact (List.nodup_append.1 hnodup).2.2 n hname n List.mem_cons_self rfl
    have hreached : queuedJobs first <+: finishedJobs (first ++ .markerQueued n :: middle) :=
      prefix_of_mem (hqueued ▸ hsofar) hfinished hnew
    rw [← event?_queuedJobs, ← event?_finishedJobs]
    exact hreached.filterMap _

/-- when the drop returns, all that was ever accepted has been published -/
theorem Runs.drained (h : Dispatcher.start pool = .ok d) {before after : List Move}
    (hrun : Runs (start d r) (before ++ .dropReturned :: after) w) :
    published before = accepted (before ++ .dropReturned :: after) := by
  obtain ⟨v, hbefore, hend⟩ := runs_append_iff.1 hrun
  obtain ⟨hclosed, hdone⟩ : v.closed = true ∧ v.dispatcher.jobs = [] := by
    obtain ⟨u, hreturn, -⟩ := hend
    cases hreturn with
    | dropReturned hclosed hhere hdone => exact ⟨hclosed, hdone⟩
  have hnothing := (hend.of_closed hclosed ((hbefore.sound (sound_start h r)).closed hclosed)).2.1
  have hjobs := hbefore.finished h
  rw [hdone, List.append_nil] at hjobs
  rw [accepted_append, ← event?_queuedJobs (.dropReturned :: after), hnothing, ← event?_finishedJobs, hjobs,
    event?_queuedJobs]
  exact (List.append_nil _).symm

/-- the state of affairs after the moves `ms`, from a dispatcher with `pool` places and a registry `r` on -/
structure InOrder (pool : Nat) (r : Registry) (ms : List Move) (w : World) : Prop where
  /-- what the worker has published, what it holds and what waits is what was accepted, in this order -/
  order : published ms ++ w.dispatcher.jobs.filterMap Job.event? = accepted ms
  /-- and it has been published in earnest -/
  registry : w.registry = r.run (registryOps ms)
  bound : w.dispatcher.queue.length ≤ pool
  /-- an event is accepted if there is a place for it. It is refused only if every place is taken, by events or by
  markers; then the queue is as it was and the event is counted -/
  answer : ∀ e answer w', Step w (.dispatched e answer) w' →
    answer = .ok () ∧ w.dispatcher.queue.length < pool ∧
        w' = { w with dispatcher := { w.dispatcher with queue := w.dispatcher.queue ++ [.publish e] } } ∨
      answer = .error (.allocationFailure (.poolExhausted pool)) ∧ w.dispatcher.queue.length = pool ∧
        w' = { w with dispatcher := { w.dispatcher with lost := w.dispatcher.lost + 1 } }
  lost : w.dispatcher.lost = UInt64.ofNat (refused ms).length
  /-- a call of `flush` that has returned had queued its marker, and what was accepted before that had been published -/
  flushed : ∀ before n after, ms = before ++ .flushReturned n :: after →
    (∃ first middle, before = first ++ .markerQueued n :: middle) ∧
      ∀ first middle, before = first ++ .markerQueued n :: middle → accepted first <+: published before
  /-- when the drop returned, all that was ever accepted had been published -/
  drained : ∀ before after, ms = before ++ .dropReturned :: after → published before = accepted ms
  /-- and it does return: until then there is a move left to make, and only so many for the worker -/
  returns : w.closed = true → w.gone = false →
    (∃ m v, Step w m v ∧ (m.isWorker = true ∨ m = .dropReturned)) ∧
      ∀ later v, Runs w later v → later.countP Move.isWorker ≤ 2 * w.dispatcher.queue.length + 1

/-- **Deferred publication loses, repeats and reorders nothing that it accepted.** This holds after every sequence of
moves of callers, of the worker and of whoever else uses the registry. -/
theorem deferred_in_order (h : Dispatcher.start pool = .ok d) (hrun : Runs (start d r) ms w) : InOrder pool r ms w := by
  have hsound := hrun.sound (sound_start h r)
  have hpool : w.dispatcher.pool = pool := by
    obtain ⟨-, rfl⟩ := start_eq h
    exact hrun.balance.pool
  exact {
    order := by
      rw [← event?_finishedJobs, ← List.filterMap_append, hrun.finished h, event?_queuedJobs]
    registry := hrun.balance.registry
    bound := hpool ▸ hsound.bound
    answer := by
      rintro e answer w' ⟨⟩
      rcases w.dispatcher.accept_cases e with ⟨hroom, haccept⟩ | ⟨hfull, haccept⟩
      · rw [haccept]
        exact .inl ⟨rfl, hpool ▸ hroom, rfl⟩
      · rw [haccept, ← hpool]
        exact .inr ⟨rfl, Nat.le_antisymm hsound.bound hfull, rfl⟩
    lost := by
      obtain ⟨-, rfl⟩ := start_eq h
      exact hrun.balance.lost.trans (UInt64.zero_add _)
    flushed := by
      rintro before n after rfl
      exact hrun.flushed h
    drained := by
      rintro before after rfl
      exact hrun.drained h
    returns := by
      intro hclosed hhere
      refine ⟨can_move hclosed hhere, ?_⟩
      intro later v hlater
      have hwork := (hlater.of_closed hclosed (hsound.closed hclosed)).2.2
      have hheld : w.dispatcher.holding.toList.length ≤ 1 := by cases w.dispatcher.holding <;> simp
      unfold work at hwork
      omega }

/-- one place: an event is refused because another waits, and one because a marker does; the call of `flush` returns
after the first event, and the drop after the last -/
theorem deferred_in_order_onePlace :
    let told (source : UInt32) : Event := .ofPayload (.interrupt source)
    let full : Except Error Unit := .error (.allocationFailure (.poolExhausted 1))
    let ms : List Move := [.dispatched (told 1) (.ok ()), .dispatched (told 2) full, .taken, .flushCalled 0,
      .markerQueued 0, .dispatched (told 3) full, .published (told 1), .taken, .markerReached 0, .flushReturned 0,
      .dispatched (told 4) (.ok ()), .dropCalled, .taken, .published (told 4), .dropReturned]
    ∃ d w, Dispatcher.start 1 = .ok d ∧ Runs (start d {}) ms w ∧ InOrder 1 {} ms w ∧
      published ms = [told 1, told 4] ∧ w.dispatcher.lost = 2 := by
  intro told full ms
  have hstart : Dispatcher.start 1 = .ok { pool := 1 } := rfl
  have hrun : Runs (start { pool := 1 } {}) ms
      { start { pool := 1, lost := 2 } {} with calls := 1, closed := true, gone := true } :=
    ⟨_, .dispatched _ rfl, _, .dispatched _ rfl, _, .taken rfl, _, .flushCalled rfl,
      _, .markerQueued List.mem_cons_self rfl, _, .dispatched _ rfl, _, .published rfl rfl, _, .taken rfl,
      _, .markerReached rfl rfl, _, .flushReturned List.mem_cons_self, _, .dispatched _ rfl,
      _, .dropCalled rfl rfl rfl rfl, _, .taken rfl, _, .published rfl rfl, _, .dropReturned rfl rfl rfl, rfl⟩
  exact ⟨_, _, hstart, hrun, deferred_in_order hstart hrun, rfl, rfl⟩

/-! ## Operations that run the worker as far as it gets -/

theorem step_of_finish {d : Dispatcher} {r : Registry} (h : w.dispatcher.finish w.registry = some (d, r)) :
    ∃ m v, Step w m v ∧ m.isWorker = true ∧ v.dispatcher = d ∧ v.registry = r := by
  cases hheld : w.dispatcher.holding with
  | none => simp [Dispatcher.finish, hheld] at h
  | some j =>
    cases j with
    | publish e => exact ⟨_, _, .published hheld h, rfl, rfl, rfl⟩
    | marker n => exact ⟨_, _, .markerReached hheld h, rfl, rfl, rfl⟩

/-- letting the worker do so many jobs is a sequence of its moves -/
theorem workOff_runs (n : Nat) (w : World) :
    ∃ ms v, Runs w ms v ∧ (∀ m ∈ ms, m.isWorker = true) ∧
      w.dispatcher.workOff n w.registry = (v.dispatcher, v.registry) := by
  induction n generalizing w with
  | zero => exact ⟨[], w, rfl, fun m hm => absurd hm List.not_mem_nil, rfl⟩
  | succ n ih =>
    have hstays : ∃ ms v, Runs w ms v ∧ (∀ m ∈ ms, m.isWorker = true) ∧
        (w.dispatcher, w.registry) = (v.dispatcher, v.registry) :=
      ⟨[], w, rfl, fun m hm => absurd hm List.not_mem_nil, rfl⟩
    unfold Dispatcher.workOff
    split
    · exact hstays
    · obtain ⟨first, u, hfirst, hworker, htaken, hregistry⟩ : ∃ ms u, Runs w ms u ∧
          (∀ m ∈ ms, m.isWorker = true) ∧
          u.dispatcher = w.dispatcher.take.getD w.dispatcher ∧ u.registry = w.registry := by
        cases htake : w.dispatcher.take with
        | none => exact ⟨[], w, rfl, fun m hm => absurd hm List.not_mem_nil, rfl, rfl⟩
        | some d => exact ⟨[.taken], _, runs_singleton_iff.2 (.taken htake), by simp [Move.isWorker], rfl, rfl⟩
      split
      case h_1 d r hfinish =>
        rw [← htaken, ← hregistry] at hfinish
        obtain ⟨m, v, hstep, hm, rfl, rfl⟩ := step_of_finish hfinish
        obtain ⟨rest, z, hrest, hworkers, hlast⟩ := ih v
        refine ⟨first ++ m :: rest, z, runs_append_iff.2 ⟨u, hfirst, v, hstep, hrest⟩, ?_, hlast⟩
        intro m' hm'
        rcases List.mem_append.1 hm' with hm' | hm'
        · exact hworker m' hm'
        · rcases List.mem_cons.1 hm' with rfl | hm'
          · exact hm
          · exact hworkers m' hm'
      case h_2 => exact hstays

/-- handing an event over is a call of `dispatch`, then moves of the worker; so what is said above holds of it -/
theorem dispatch_runs (hopen : w.closed = false) (e : Event) :
    ∃ answer ms v, Runs w (.dispatched e answer :: ms) v ∧ (∀ m ∈ ms, m.isWorker = true) ∧
      w.dispatcher.dispatch e w.registry = (answer, v.dispatcher, v.registry) := by
  obtain ⟨ms, v, hruns, hworker, hlast⟩ :=
    workOff_runs ((w.dispatcher.accept e).2.queue.length + 1) { w with dispatcher := (w.dispatcher.accept e).2 }
  refine ⟨_, ms, v, ⟨_, .dispatched e hopen, hruns⟩, hworker, ?_⟩
  exact congrArg (Prod.mk _) hlast

end World
end BoardDriver
