/-
A series of transfers from the command line, from the first submission to the last line.

The program submits a transfer, raises its completion, waits for it, prints a line and goes on to the next. On a new
simulator each turn is a round trip from rest to rest, so an induction on the number of turns tells the tickets, the
counters and the events of any series. Nobody empties the session's queue meanwhile: it fills up, and stays full.

- `World.Flushed`: a worker that goes at its own pace, up to the return of a `flush`, leaves the registry of one that
  publishes each event at once (`Flushed.registry`);
- `Subscriber.length_queue_offeredAll`: how many events a queue that nobody empties has kept;
- `Series.Reached`: the board after the first `n` turns; `Reached.next` is one turn, `Series.reached` all of them;
- `Series.transfer_eq`, `Series.transfers_eq`: what the loop prints and leaves, and what the task does;
- `Series.CarriedOut`, `Refused`: the two ends that a series on a new simulator comes to;
- `dma_run`: it comes to them.
-/
import BoardDriver.CommandLine.Run
import BoardDriver.Proofs.RoundTrip

namespace BoardDriver

/-! ## A worker at its own pace -/

theorem registryOps_eq {ms : List Move} (halone : ∀ op, .registryUsed op ∉ ms) :
    registryOps ms = (published ms).map Registry.Op.publish := by
  induction ms with
  | nil => rfl
  | cons m ms ih =>
    have hrest := ih fun op h => halone op (List.mem_cons_of_mem m h)
    unfold registryOps published at hrest ⊢
    cases m with
    | registryUsed op => exact absurd List.mem_cons_self (halone op)
    | published e => exact congrArg (Registry.Op.publish e :: ·) hrest
    | _ => exact hrest

theorem Registry.run_publish (r : Registry) (es : List Event) : r.run (es.map .publish) = r.publishAll es := by
  induction es generalizing r with
  | nil => rfl
  | cons e es ih => exact ih (r.publish e).2

namespace World

/-- a worker has gone at its own pace: it has been handed these events one after the other and refused none of them,
nobody else has used the registry, and a call of `flush` that queued its marker after them has returned -/
def Flushed (pool : Nat) (r : Registry) (events : List Event) (w : World) : Prop :=
  ∃ d first n middle, Dispatcher.start pool = .ok d ∧
    let moves := (first ++ .markerQueued n :: middle) ++ [.flushReturned n]
    Runs (start d r) moves w ∧ accepted first = events ∧ accepted middle = [] ∧ ∀ op, .registryUsed op ∉ moves

theorem Flushed.registry {pool : Nat} {r : Registry} {events : List Event} {w : World} (h : Flushed pool r events w) :
    w.registry = r.publishAll events := by
  obtain ⟨d, first, n, middle, hstart, hrun, hevents, hlater, halone⟩ := h
  have haccepted : accepted ((first ++ .markerQueued n :: middle) ++ [.flushReturned n]) = events := by
    rw [accepted_append, accepted_append, hevents]
    change events ++ accepted middle ++ [] = events
    rw [hlater, List.append_nil, List.append_nil]
  -- what was accepted before the marker has been published, and nothing else was accepted
  have hleast : events <+: published ((first ++ .markerQueued n :: middle) ++ [.flushReturned n]) := by
    rw [← hevents, published_append]
    exact ((hrun.flushed hstart).2 first middle rfl).trans (List.prefix_append _ _)
  have hmost : published ((first ++ .markerQueued n :: middle) ++ [.flushReturned n]) <+: events := by
    rw [← haccepted, ← event?_finishedJobs, ← event?_queuedJobs, ← hrun.finished hstart, List.filterMap_append]
    exact List.prefix_append _ _
  have hall : published ((first ++ .markerQueued n :: middle) ++ [.flushReturned n]) = events :=
    hmost.eq_of_length_le hleast.length_le
  rw [hrun.balance.registry, registryOps_eq halone, hall, Registry.run_publish]
  rfl

end World

/-! ## One session -/

namespace Subscriber

variable {s : Subscriber} {e : Event}

theorem wants_offered (s : Subscriber) (e : Event) (p : Payload) : (s.offered e).wants p = s.wants p := by
  rw [offered_eq]
  rfl

theorem length_queue_offered (hwants : s.wants e.payload = true) (hfits : s.queue.length ≤ s.depth) :
    (s.offered e).queue.length = min (s.queue.length + 1) s.depth := by
  rw [offered_eq]
  by_cases hroom : s.queue.length < s.depth
  · have hyes : s.hasRoom = true := decide_eq_true hroom
    simp only [hwants, hyes, and_self, if_true, List.length_append, List.length_singleton]
    omega
  · have hno : s.hasRoom = false := decide_eq_false hroom
    simp only [hwants, hno, Bool.false_eq_true, and_false, if_false]
    omega

/-- a queue that nobody empties is full from some event on -/
theorem length_queue_offeredAll (es : List Event) (hwants : ∀ e ∈ es, s.wants e.payload = true)
    (hfits : s.queue.length ≤ s.depth) :
    (es.foldl (fun s e => s.offered e.stampProduced) s).queue.length = min (s.queue.length + es.length) s.depth := by
  induction es generalizing s with
  | nil => exact (Nat.min_eq_left hfits).symm
  | cons e es ih =>
    have hfirst := length_queue_offered (e := e.stampProduced) (hwants e List.mem_cons_self) hfits
    have hdepth : (s.offered e.stampProduced).depth = s.depth := offered_depth _ s
    rw [List.foldl_cons, ih, hfirst, hdepth, List.length_cons]
    · omega
    · intro f hf
      rw [wants_offered]
      exact hwants f (List.mem_cons_of_mem e hf)
    · rw [hfirst, hdepth]
      exact Nat.min_le_right _ _

end Subscriber

namespace Registry

def ofOne (s : Subscriber) : Registry := { subscribers := [some s], entries := [0] }

theorem publish_ofOne (s : Subscriber) (e : Event) : ((ofOne s).publish e).2 = ofOne (s.offered e.stampProduced) := by
  have hone : (ofOne s).publish e = offer e.stampProduced {} (ofOne s) 0 := rfl
  have hs : (ofOne s).subscriber? 0 = some s := rfl
  simp only [hone, offer, hs, Subscriber.offered]
  split
  · cases hanswer : s.enqueue e.stampProduced with
    | mk answer s' => cases answer <;> rfl
  · rfl

theorem publishAll_ofOne (s : Subscriber) (es : List Event) :
    (ofOne s).publishAll es = ofOne (es.foldl (fun s e => s.offered e.stampProduced) s) := by
  induction es generalizing s with
  | nil => rfl
  | cons e es ih =>
    change ((ofOne s).publish e).2.publishAll es = _
    rw [publish_ofOne, ih]
    rfl

end Registry

/-! ## Transfer after transfer -/

namespace CommandLine

open Device

structure Series where
  session : Session
  direction : Direction
  system : UInt32
  device : UInt32
  length : UInt32

namespace Series

variable (t : Series)

/-- the system's address of transfer `i`, moved by the bytes of those before it, modulo 2 ^ 32 -/
def systemAt (i : Nat) : UInt32 := UInt32.ofNat (t.system.toNat + i * t.length.toNat)

/-- the device's address of transfer `i` -/
def deviceAt (i : Nat) : UInt32 := UInt32.ofNat (t.device.toNat + i * t.length.toNat)

def report (tickets : TicketCounter) (i : Nat) : Retired where
  channel := 0
  ticket := tickets.nth i
  cookie := t.session.id
  descriptor := .between t.direction (t.systemAt i) (t.deviceAt i) t.length

def told (d : Board) (i : Nat) : Event :=
  .ofPayload (.dmaDone (d.ledger.tickets.nth i) (d.elapsed (d.ledger.tickets.nth i)) t.session.id)

def line (d : Board) (i : Nat) : String :=
  Task.transferLine (d.ledger.tickets.nth i) t.direction t.length (d.elapsed (d.ledger.tickets.nth i))

/-- the board after the first `n` transfers, each submitted and then completed -/
def after (d : Board) : Nat → Board
  | 0 => d
  | n + 1 =>
    let submitted := (after d n).submitTransfer t.session t.direction (t.systemAt n) (t.deviceAt n) t.length true
    (submitted.2.1.simulateFor (sourceOfVector 0)).2.1

/-- the board rests after the first `n` transfers of a series that began on `d` -/
structure Reached (d : Board) (n : Nat) (e : Board) : Prop where
  rests : e.Rests
  config : e.config = d.config
  elapsed : e.elapsed = d.elapsed
  tickets : e.ledger.tickets = d.ledger.tickets.after n
  counts : d.statistics.Counts ((List.range n).map (t.report d.ledger.tickets)) e.statistics
  registry : e.registry = d.registry.publishAll ((List.range n).map (t.told d))

variable {t} {d e : Board} {n : Nat}

theorem add_shift (start length : UInt32) (i : Nat) :
    start + UInt32.ofNat i * length = UInt32.ofNat (start.toNat + i * length.toNat) := by
  rw [UInt32.ofNat_add, UInt32.ofNat_mul, UInt32.ofNat_toNat, UInt32.ofNat_toNat]

theorem Reached.start (h : d.Rests) : t.Reached d 0 d :=
  ⟨h, rfl, rfl, d.ledger.tickets.after_zero.symm, .refl _, rfl⟩

/-- one transfer more -/
theorem Reached.next (h : t.Reached d n e) (hlength : t.length ≠ 0) :
    ∃ handle busy f, handle.ticket = d.ledger.tickets.nth n ∧
      RoundTrip t.session handle t.direction (t.systemAt n) (t.deviceAt n) t.length e busy f ∧
      t.Reached d (n + 1) f := by
  obtain ⟨handle, busy, f, htrip, hreturned⟩ :=
    h.rests.roundTrip t.session t.direction (t.systemAt n) (t.deviceAt n) hlength
  have hdealt := hreturned.tickets
  rw [h.tickets, TicketCounter.deal_after] at hdealt
  obtain ⟨hticket, htickets⟩ : d.ledger.tickets.nth n = handle.ticket ∧
      d.ledger.tickets.after (n + 1) = f.ledger.tickets := Prod.mk.inj hdealt
  refine ⟨handle, busy, f, hticket.symm, htrip, ?_⟩
  exact {
    rests := hreturned.rests
    config := hreturned.config.trans h.config
    elapsed := hreturned.elapsed.trans h.elapsed
    tickets := htickets.symm
    counts := by
      rw [List.range_succ, List.map_append, List.map_singleton, report, hticket]
      exact h.counts.trans hreturned.counts
    registry := by
      rw [List.range_succ, List.map_append, List.map_singleton, Registry.publishAll_append, ← h.registry, told, hticket,
        ← h.elapsed]
      exact hreturned.registry }

/-- what a round trip leaves is what the series leaves -/
theorem after_succ {handle : CompletionHandle} {busy f : Board}
    (h : RoundTrip t.session handle t.direction (t.systemAt n) (t.deviceAt n) t.length (t.after d n) busy f) :
    t.after d (n + 1) = f := by
  simp only [after, h.submitted, h.retired]

/-- after any number of transfers the board rests -/
theorem reached (h : d.Rests) (hlength : t.length ≠ 0) (n : Nat) : t.Reached d n (t.after d n) := by
  induction n with
  | zero => exact .start h
  | succ n ih =>
    obtain ⟨_, _, _, -, htrip, hnext⟩ := ih.next hlength
    rwa [after_succ htrip]

theorem roundTrip (h : d.Rests) (hlength : t.length ≠ 0) (n : Nat) :
    ∃ handle busy, handle.ticket = d.ledger.tickets.nth n ∧
      RoundTrip t.session handle t.direction (t.systemAt n) (t.deviceAt n) t.length (t.after d n) busy
        (t.after d (n + 1)) := by
  obtain ⟨handle, busy, f, hticket, htrip, -⟩ := (reached h hlength n).next hlength
  exact ⟨handle, busy, hticket, (after_succ htrip).symm ▸ htrip⟩

/-- the loop goes from one round trip to the next -/
theorem transfer_eq (h : d.Rests) (hlength : t.length ≠ 0) (n count : Nat) :
    Task.transfer t.session t.length t.direction t.system t.device n count (t.after d n) =
      { lines := (List.range' n count).map (t.line d), device := t.after d (n + count) } := by
  induction count generalizing n with
  | zero => rfl
  | succ count ih =>
    obtain ⟨handle, busy, hticket, htrip⟩ := roundTrip h hlength n
    have hmode : busy.config.mode.isSimulator = true := isSimulator_of_simulateFor (congrArg Prod.fst htrip.retired)
    have hsystem : t.system + UInt32.ofNat n * t.length = t.systemAt n := add_shift ..
    have hdevice : t.device + UInt32.ofNat n * t.length = t.deviceAt n := add_shift ..
    simp only [Task.transfer, hsystem, hdevice, htrip.submitted, hmode, if_true, htrip.retired, htrip.waited, ih]
    have hline : Task.transferLine handle.ticket t.direction t.length ((t.after d (n + 1)).elapsed handle.ticket) =
        t.line d n := by
      rw [(reached h hlength (n + 1)).elapsed, hticket]
      rfl
    rw [hline, List.range'_succ, List.map_cons, Nat.add_right_comm, Nat.add_assoc n count 1]
    rfl

end Series

/-! ## From the first submission to the last line -/

/-- the scheduler of a simulated board that was built -/
theorem scheduler_of_build {files : HostFiles} {config : Config} {d : Board}
    (hbuild : Device.build files config none = .ok d) (hmode : config.mode = .simulator) :
    d.ledger.scheduler = .lone config.irqBase none := by
  obtain ⟨table, bank, scheduler, dispatcher, -, -, -, hscheduler, -, rfl⟩ := build_cases hbuild
  obtain ⟨report, hreport, hscheduler⟩ := exists_ok_of_bind hscheduler
  rw [hmode] at hreport
  cases hreport
  obtain ⟨_, -, hscheduler⟩ := exists_ok_of_bind hscheduler
  cases hscheduler
  have hfit : config.irqBase.toNat + 0 < UInt32.size := config.irqBase.toNat_lt
  have hirq : config.irqBase + UInt32.ofNat 0 = config.irqBase := UInt32.add_zero _
  have henable : (Scheduler.fresh 1 1#32).enable 0 config.irqBase = .ok (.lone config.irqBase none) := rfl
  change (Scheduler.bindFrom config.irqBase 0 1 (.fresh 1 1#32)).2 = _
  simp only [Scheduler.bindFrom, if_pos hfit, hirq, henable]

/-- a simulated board that was built rests -/
theorem rests_of_build {files : HostFiles} {config : Config} {d : Board}
    (hbuild : Device.build files config none = .ok d) (hmode : config.mode = .simulator) : d.Rests := by
  have hshows := shows_of_build hbuild hmode
  have hscheduler := scheduler_of_build hbuild hmode
  obtain ⟨table, bank, scheduler, dispatcher, -, -, -, -, hdispatcher, rfl⟩ := build_cases hbuild
  obtain ⟨hpool, rfl⟩ := World.start_eq hdispatcher
  exact ⟨hshows, hscheduler, ⟨hpool, rfl, rfl⟩, rfl⟩

/-- the board once a session that asked for the ends of transfers has been opened -/
def opened (d : Board) : Board := d.openSession.2.setEventMask d.openSession.1 EventKind.dmaDone.bit

/-- opening a session changes who listens, and counts -/
theorem exists_opened_eq (d : Board) : ∃ registry, opened d =
    { d with nextSession := d.nextSession + 1, registry := registry
             statistics := d.statistics.recordOpen.recordControl } := by
  rw [opened, setEventMask, modifySubscriber]
  split
  · exact ⟨_, rfl⟩
  · exact ⟨_, rfl⟩

theorem rests_opened {d : Board} (h : d.Rests) : (opened d).Rests := by
  obtain ⟨registry, heq⟩ := exists_opened_eq d
  rw [heq]
  exact ⟨h.shows.of_eq ⟨rfl, rfl, rfl⟩ rfl, h.scheduler, h.worker, h.pace⟩

theorem counters_opened (d : Board) (direction : Direction) :
    (opened d).statistics.counters direction = d.statistics.counters direction := by
  obtain ⟨registry, heq⟩ := exists_opened_eq d
  rw [heq]
  cases direction <;> rfl

theorem ledger_opened (d : Board) : (opened d).ledger = d.ledger := by
  obtain ⟨registry, heq⟩ := exists_opened_eq d
  rw [heq]

theorem elapsed_opened (d : Board) : (opened d).elapsed = d.elapsed := by
  obtain ⟨registry, heq⟩ := exists_opened_eq d
  rw [heq]

namespace Series

variable (t : Series) (d : Board)

theorem told_opened : t.told (opened d) = t.told d := by
  funext i
  rw [told, told, ledger_opened, elapsed_opened]

theorem line_opened : t.line (opened d) = t.line d := by
  funext i
  rw [line, line, ledger_opened, elapsed_opened]

end Series

/-- what a series of `count` transfers on a new board comes to -/
structure Series.CarriedOut (t : Series) (d : Board) (count : Nat) (r : TaskResult) : Prop where
  /-- each transfer is submitted with its own addresses, programmed, found alone by its interrupt, and waited for -/
  trips : ∀ i < count, ∃ handle busy, handle.ticket = d.ledger.tickets.nth i ∧
    RoundTrip t.session handle t.direction (t.systemAt i) (t.deviceAt i) t.length (t.after (opened d) i) busy
      (t.after (opened d) (i + 1))
  /-- the tickets follow one another, in 31 bits -/
  consecutive : ∀ i < count, (d.ledger.tickets.nth i).value.toNat = (d.ledger.tickets.last.toNat + (i + 1)) % 2 ^ 31
  fault : r.fault = none
  /-- a line for each transfer, and one that says how many of them the queue had room for -/
  lines : r.lines = (List.range count).map (t.line d) ++
    [toString (min count d.config.eventDepth) ++ " dma-done event(s) delivered"]
  /-- after the last transfer the session takes its events and closes -/
  device : r.device = ((t.after (opened d) count).drainEvents t.session).2.closeSession t.session
  idle : r.device.ledger.scheduler.inFlightCount = 0 ∧ r.device.ledger.scheduler.pending = []
  counted : (r.device.statistics.counters t.direction).buffers.toNat = count ∧
    (r.device.statistics.counters t.direction).bytes.toNat = count * t.length.toNat
  others : ∀ other ≠ t.direction, (r.device.statistics.counters other).buffers = 0 ∧
    (r.device.statistics.counters other).bytes = 0
  /-- a worker that goes at its own pace but refuses nothing leaves as many events to deliver -/
  paced : ∀ w, World.Flushed d.config.dispatchPool (opened d).registry ((List.range count).map (t.told d)) w →
    w.registry = (t.after (opened d) count).registry

/-- a series that is refused before anything has been submitted -/
structure Refused (d : Board) (r : TaskResult) : Prop where
  fault : r.fault = some (.device (.invalidArgument .emptyTransfer))
  lines : r.lines = []
  ledger : r.device.ledger = d.ledger
  table : r.device.table = d.table
  counters : ∀ direction, r.device.statistics.counters direction = d.statistics.counters direction

theorem direction_between (direction : Direction) (system device length : UInt32) :
    (TransferDescriptor.between direction system device length).direction = direction := by
  cases direction <;> rfl

theorem length_between (direction : Direction) (system device length : UInt32) :
    (TransferDescriptor.between direction system device length).length = length := by
  cases direction <;> rfl

namespace Series

variable {t : Series} (tickets : TicketCounter) (n : Nat)

/-- all transfers of a series have its direction -/
theorem doneIn_reports : doneIn t.direction ((List.range n).map (t.report tickets)) =
    (List.range n).map (t.report tickets) := by
  apply List.filter_eq_self.2
  intro r hr
  obtain ⟨i, -, rfl⟩ := List.mem_map.1 hr
  exact decide_eq_true (direction_between ..)

theorem doneIn_reports_of_ne {other : Direction} (h : other ≠ t.direction) :
    doneIn other ((List.range n).map (t.report tickets)) = [] := by
  apply List.filter_eq_nil_iff.2
  intro r hr
  obtain ⟨i, -, rfl⟩ := List.mem_map.1 hr
  rw [decide_eq_true_eq, report, direction_between]
  exact h.symm

theorem bytesIn_reports : bytesIn t.direction ((List.range n).map (t.report tickets)) = n * t.length.toNat := by
  have hlength : (fun i => (t.report tickets i).descriptor.length.toNat) = fun _ => t.length.toNat := by
    funext i
    rw [report, length_between]
  rw [bytesIn, doneIn_reports, List.map_map]
  change ((List.range n).map fun i => (t.report tickets i).descriptor.length.toNat).sum = _
  rw [hlength, List.map_const', List.sum_replicate_nat, List.length_range]

end Series

/-- the session of a new board is its only subscriber -/
theorem registry_opened {d : Board} (hnew : d.registry = {}) : (opened d).registry =
    .ofOne { id := d.openSession.1.id, enableMask := EventKind.dmaDone.bit, depth := d.config.eventDepth } := by
  cases d
  cases hnew
  rfl

/-- a session that takes all its events and closes touches neither the books nor the counters of transfers -/
theorem drained_and_closed (s : Session) (d : Board) :
    let e := (d.drainEvents s).2.closeSession s
    e.ledger = d.ledger ∧ ∀ direction, e.statistics.counters direction = d.statistics.counters direction := by
  unfold drainEvents
  split
  · exact ⟨rfl, fun direction => by cases direction <;> rfl⟩
  · exact ⟨rfl, fun direction => by cases direction <;> rfl⟩

/-- the session has been told of every transfer, and its queue has kept as many as it had room for -/
theorem Series.length_drained {t : Series} {d last : Board} {n : Nat} (hnew : d.registry = {})
    (hsession : t.session = d.openSession.1) (h : t.Reached (opened d) n last) :
    (last.drainEvents t.session).1.length = min n d.config.eventDepth := by
  have hsubscriber : t.session.subscriber = 0 := by
    rw [hsession, openSession, hnew]
    rfl
  let s : Subscriber :=
    { id := d.openSession.1.id, enableMask := EventKind.dmaDone.bit, depth := d.config.eventDepth }
  let events := (List.range n).map (t.told (opened d))
  have hlast : last.registry = .ofOne (events.foldl (fun s e => s.offered e.stampProduced) s) := by
    rw [h.registry, registry_opened hnew, Registry.publishAll_ofOne]
  have hmask : EventKind.dmaDone.bit &&& EventKind.dmaDone.bit ≠ 0 := by decide
  have hwants : ∀ e ∈ events, s.wants e.payload = true := by
    intro e he
    obtain ⟨i, -, rfl⟩ := List.mem_map.1 he
    exact (s.wants_dmaDone_iff _ _ _).2 ⟨hmask, congrArg Session.id hsession⟩
  have hqueue := Subscriber.length_queue_offeredAll events hwants (Nat.zero_le _)
  have hcount : events.length = n := by rw [List.length_map, List.length_range]
  simp only [drainEvents, hsubscriber, hlast, Registry.ofOne, Registry.subscriber?, Subscriber.drain]
  change (List.map Event.stampDelivered (events.foldl (fun s e => s.offered e.stampProduced) s).queue).length = _
  rw [List.length_map, hqueue, hcount]
  change min (0 + n) d.config.eventDepth = _
  rw [Nat.zero_add]

/-- the whole of a series, in terms of the board that its last transfer leaves -/
theorem Series.transfers_eq {t : Series} {d : Board} (hnew : d.registry = {}) (hsession : t.session = d.openSession.1)
    (hrests : (opened d).Rests) (hlength : t.length ≠ 0) (count : Nat) :
    Task.transfers count t.length t.direction t.system t.device d =
      { lines := (List.range count).map (t.line (opened d)) ++
          [toString (min count d.config.eventDepth) ++ " dma-done event(s) delivered"]
        device := ((t.after (opened d) count).drainEvents t.session).2.closeSession t.session } := by
  have hloop := transfer_eq hrests hlength 0 count
  simp only [after, Nat.zero_add, ← List.range_eq_range'] at hloop
  have hdelivered := length_drained hnew hsession (reached hrests hlength count)
  rw [hsession] at hloop hdelivered ⊢
  simp only [Task.transfers]
  rw [show setEventMask d.openSession.1 EventKind.dmaDone.bit d.openSession.2 = opened d from rfl, hloop]
  simp only [hdelivered]

/-- a series on a board that rests and has nobody else to serve -/
theorem Series.carriedOut {t : Series} {d : Board} (hnew : d.registry = {}) (hsession : t.session = d.openSession.1)
    (hrests : d.Rests) (huncounted : ({} : Statistics).Counts [] d.statistics) (hlength : t.length ≠ 0)
    {count : Nat} (hcount : count < 2 ^ 32) :
    t.CarriedOut d count (Task.run d (.dma count t.length t.direction t.system t.device)) := by
  have hopened := rests_opened hrests
  have hreached := Series.reached (t := t) hopened hlength count
  have hrun : Task.run d (.dma count t.length t.direction t.system t.device) = _ :=
    t.transfers_eq hnew hsession hopened hlength count
  obtain ⟨hledger, hstatistics⟩ := drained_and_closed t.session (t.after (opened d) count)
  -- from nothing, through the opening and the series, to the last transfer
  have hcounts : ({} : Statistics).Counts ((List.range count).map (t.report d.ledger.tickets))
      (t.after (opened d) count).statistics := by
    rw [← ledger_opened d]
    exact (huncounted.trans (.of_counters_eq (counters_opened d))).trans hreached.counts
  rw [hrun]
  exact {
    trips := by
      intro i _
      rw [← ledger_opened d]
      exact roundTrip hopened hlength i
    consecutive := fun i _ => d.ledger.tickets.toNat_value_nth i
    fault := rfl
    lines := by rw [line_opened]
    device := rfl
    idle := by
      rw [hledger, hreached.rests.scheduler]
      exact ⟨rfl, rfl⟩
    counted := by
      obtain ⟨hbuffers, hbytes⟩ := hcounts.toNat t.direction
      have hfits : count * t.length.toNat < 2 ^ 64 := by
        calc count * t.length.toNat < 2 ^ 32 * 2 ^ 32 := Nat.mul_lt_mul'' hcount t.length.toNat_lt
          _ = 2 ^ 64 := rfl
      rw [doneIn_reports, List.length_map, List.length_range] at hbuffers
      rw [bytesIn_reports, Nat.mod_eq_of_lt hfits] at hbytes
      rw [hstatistics]
      exact ⟨hbuffers.trans (Nat.mod_eq_of_lt (by omega)), hbytes⟩
    others := by
      intro other hother
      have hnone := doneIn_reports_of_ne d.ledger.tickets count hother
      obtain ⟨hbuffers, hbytes⟩ := hcounts.toNat other
      rw [bytesIn, hnone] at hbytes
      rw [hnone] at hbuffers
      rw [hstatistics]
      exact ⟨UInt64.toNat_inj.1 hbuffers, UInt64.toNat_inj.1 hbytes⟩
    paced := by
      intro w hw
      rw [hw.registry, hreached.registry, told_opened] }

/-- a series of empty transfers is refused at the first one -/
theorem refused_of_empty (d : Board) (count : Nat) (direction : Direction) (system device : UInt32) :
    Refused d (Task.run d (.dma (count + 1) 0 direction system device)) := by
  have hrun : Task.run d (.dma (count + 1) 0 direction system device) =
      { lines := [], device := (opened d).closeSession d.openSession.1
        fault := some (.device (.invalidArgument .emptyTransfer)) } := rfl
  obtain ⟨registry, heq⟩ := exists_opened_eq d
  rw [hrun, heq]
  exact ⟨rfl, rfl, rfl, rfl, fun direction => by cases direction <;> rfl⟩

/-- **A series of transfers on a new simulator, end to end.** Whatever its settings and however many tickets the program
has dealt before:

- a series with a length is carried out to the end: no transfer is refused, each interrupt retires the transfer that was
  submitted last and nothing else, no wait runs out, and a line is printed for each;
- the addresses of a transfer are those of the series, moved by the bytes of the transfers before it, modulo 2 ^ 32;
- nothing is left in flight or waiting, and the counters show the transfers and bytes of this direction alone;
- the last line counts the events that the queue had room for;
- without a length the first transfer is refused, and none is submitted. -/
theorem dma_run {files : HostFiles} {config : Config} {d : Board} (hbuild : Device.build files config none = .ok d)
    (hmode : config.mode = .simulator) (tickets : TicketCounter) (completions : CompletionTable)
    (elapsed : Ticket → Duration) (tracking : Bool) {count : Nat} (hcount : count < 2 ^ 32) (direction : Direction)
    (system device length : UInt32) :
    let host := (d.onHost tickets completions elapsed).setTracking tracking
    let r := Task.run host (.dma count length direction system device)
    (length ≠ 0 → Series.CarriedOut ⟨host.openSession.1, direction, system, device, length⟩ host count r) ∧
      (length = 0 → 0 < count → Refused host r) := by
  intro host r
  constructor
  · intro hlength
    have hbuilt := rests_of_build hbuild hmode
    obtain ⟨table, bank, scheduler, dispatcher, -, -, -, -, -, rfl⟩ := build_cases hbuild
    have hrests : host.Rests :=
      ⟨⟨hbuilt.shows.config, hbuilt.shows.engine, hbuilt.shows.registers⟩, hbuilt.scheduler, hbuilt.worker, hbuilt.pace⟩
    have huncounted : ({} : Statistics).Counts [] host.statistics := by
      apply Statistics.Counts.of_counters_eq
      intro direction
      cases direction <;> rfl
    exact Series.carriedOut rfl rfl hrests huncounted hlength hcount
  · rintro rfl hpositive
    obtain ⟨count, rfl⟩ := Nat.exists_eq_add_one.2 hpositive
    exact refused_of_empty host count direction system device

/-- a new simulator whose queues have one place each -/
def narrowBoard : Board :=
  (Device.build (fun _ => none) { eventDepth := 1, dispatchPool := 1 } none).toOption.get (by decide)

theorem build_narrowBoard :
    Device.build (fun _ => none) { eventDepth := 1, dispatchPool := 1 } none = .ok narrowBoard :=
  eq_ok_get_toOption _ _

/-- two transfers: the tickets start anew, the system's addresses wrap, and the queue keeps one event of two, as it does
when the worker falls behind; 150 ns are held as a little less than 0.15 µs; transfers of no bytes are refused -/
theorem dma_run_onePlace :
    let host := (narrowBoard.onHost ⟨0x7ffffffe⟩ {} fun _ => ⟨150⟩).setTracking true
    let t : Series := ⟨host.openSession.1, .down, 0xfffff000, 0x10, 0x1000⟩
    let r := Task.run host (.dma 2 0x1000 .down 0xfffff000 0x10)
    t.CarriedOut host 2 r ∧ t.systemAt 1 = 0 ∧ t.deviceAt 1 = 0x1010 ∧
      r.lines = ["ticket 2147483647  down  4096 bytes  0.1 µs", "ticket 0  down  4096 bytes  0.1 µs",
        "1 dma-done event(s) delivered"] ∧
      (∃ w, World.Flushed 1 (opened host).registry [t.told host 0, t.told host 1] w ∧
        w.registry = (t.after (opened host) 2).registry) ∧
      Refused host (Task.run host (.dma 2 0 .down 0xfffff000 0x10)) := by
  intro host t r
  have hrun := dma_run build_narrowBoard rfl ⟨0x7ffffffe⟩ {} (fun _ => ⟨150⟩) true (by decide : 2 < 2 ^ 32) .down
    0xfffff000 0x10
  have hcarried : t.CarriedOut host 2 r := (hrun 0x1000).1 (by decide)
  let first := t.told host 0
  let second := t.told host 1
  let before : List Move :=
    [.dispatched first (.ok ()), .taken, .dispatched second (.ok ()), .flushCalled 0, .published first, .taken]
  let middle : List Move := [.published second, .taken, .markerReached 0]
  obtain ⟨w, hflushed⟩ : ∃ w, World.Flushed 1 (opened host).registry [first, second] w :=
    ⟨_, _, before, 0, middle, rfl,
      ⟨_, .dispatched _ rfl, _, .taken rfl, _, .dispatched _ rfl, _, .flushCalled rfl, _, .published rfl rfl,
        _, .taken rfl, _, .markerQueued List.mem_cons_self rfl, _, .published rfl rfl, _, .taken rfl,
        _, .markerReached rfl rfl, _, .flushReturned List.mem_cons_self, rfl⟩,
      rfl, rfl, by simp [before, middle]⟩
  exact ⟨hcarried, by decide, by decide, by decide +kernel, ⟨w, hflushed, hcarried.paced w hflushed⟩,
    (hrun 0).2 rfl (by decide)⟩

end CommandLine
end BoardDriver
