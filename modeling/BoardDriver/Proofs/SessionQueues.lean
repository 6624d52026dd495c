/-
What one command does to the queues of a device's sessions.

A command does something of itself, and then the engine's activity takes effect, entry by entry. Of itself it may open a
session, close one, or take events out of the queue of the session that it comes from. The entries tell the sessions of
what happened; only the report of a retirement tells of the end of a transfer.

- `Telling`, `tellings`: the retirements that are reported, each with the registry as its owner is told;
- `Ready`: the sessions are enrolled and the worker has nothing to do;
- `Moment.yields`: what a command takes out of the queues of itself;
- `Ready.replay`: what the entries put in, as long as the worker has nothing left to do afterwards;
- `Moment.ready_after`: both together.
-/
import BoardDriver.Proofs.Delivery
import BoardDriver.Proofs.DeviceHistory
import BoardDriver.Proofs.RegisterEvents

namespace BoardDriver

/-- a retirement about to be reported, and the registry as its owner is told -/
structure Telling where
  retired : Retired
  registry : Registry

namespace Telling

/-- the event that reports it, on a clock that tells how long each transfer took -/
def payload (clock : Ticket → Duration) (t : Telling) : Payload :=
  .dmaDone t.retired.ticket (clock t.retired.ticket) t.retired.cookie

/-- what a session is told of retirements: those with its cookie, while it receives such events -/
def told (depth : Nat) (clock : Ticket → Duration) (number : Nat) (ts : List Telling) : List Payload :=
  (ts.filter fun t => t.retired.cookie = sessionName number ∧ t.registry.receives depth number).map (payload clock)

theorem told_append (depth : Nat) (clock : Ticket → Duration) (number : Nat) (ts us : List Telling) :
    told depth clock number (ts ++ us) = told depth clock number ts ++ told depth clock number us := by
  simp [told]

end Telling

namespace Device

variable {ε : Type}

/-- between two commands, on a host with this clock: the sessions are enrolled, each with a queue of `depth` places, and
the worker has nothing to do -/
structure Ready (depth : Nat) (clock : Ticket → Duration) (d : Device ε) : Prop where
  depth_eq : d.config.eventDepth = depth
  clock_eq : d.elapsed = clock
  enrolled : d.registry.Enrolled depth
  next : d.nextSession = UInt64.ofNat (d.registry.subscribers.length + 1)
  idle : d.dispatcher.Idle

variable {depth : Nat} {clock : Ticket → Duration} {d e : Device ε}

theorem Ready.of_tells {told : Nat → List Payload} (h : d.Ready depth clock) (hc : e.config = d.config)
    (he : e.elapsed = d.elapsed) (hn : e.nextSession = d.nextSession) (hi : e.dispatcher.Idle)
    (ht : d.registry.Tells depth told e.registry) : e.Ready depth clock where
  depth_eq := (congrArg Config.eventDepth hc).trans h.depth_eq
  clock_eq := he.trans h.clock_eq
  enrolled := ht.enrolled
  next := by rw [hn, h.next, ht.length]
  idle := hi

/-- an event is published at once, or the worker falls behind -/
theorem Ready.tell (h : d.Ready depth clock) (p : Payload) :
    (d.tell p).Ready depth clock ∧
      d.registry.Tells depth
        (fun n => (dones [.ofPayload p]).filter fun p => p.cookie? = some (sessionName n) ∧ d.registry.receives depth n)
        (d.tell p).registry ∨
    (d.tell p).dispatcher.Behind := by
  have hdispatch := h.idle.dispatch (.ofPayload p) d.registry
  by_cases hpace : d.dispatcher.pace = .paused
  · rw [if_pos hpace] at hdispatch
    have hdispatcher := congrArg Prod.fst hdispatch
    right
    change (d.dispatcher.dispatch (.ofPayload p) d.registry).2.1.Behind
    rw [hdispatcher]
    exact ⟨hpace, List.cons_ne_nil _ _⟩
  · rw [if_neg hpace] at hdispatch
    have hdispatcher : (d.tell p).dispatcher = _ := congrArg Prod.fst hdispatch
    have hregistry : (d.tell p).registry = _ := congrArg Prod.snd hdispatch
    have ht := hregistry ▸ h.enrolled.publish (.ofPayload p)
    refine .inl ⟨h.of_tells rfl rfl rfl ?_ ht, ht⟩
    rw [hdispatcher]
    exact ⟨h.idle.pool, h.idle.holding, h.idle.queue⟩

/-! ## Entry by entry -/

/-- the retirements that entries report, in order, each with the registry just before its owner is told -/
def tellings [TransferEngine ε] : List DeviceStep → Device ε → List Telling
  | [], _ => []
  | s :: rest, d =>
    ((s.answer?.bind done?).toList.map fun r => { retired := r, registry := d.registry }) ++
      tellings rest (d.replayStep s)

variable [TransferEngine ε]

theorem tellings_cons (s : DeviceStep) (steps : List DeviceStep) (d : Device ε) :
    tellings (s :: steps) d = tellings [s] d ++ tellings steps (d.replayStep s) := by
  simp [tellings]

theorem map_retired_tellings (steps : List DeviceStep) (d : Device ε) :
    (tellings steps d).map Telling.retired = (steps.filterMap EngineStep.answer?).filterMap done? := by
  induction steps generalizing d with
  | nil => rfl
  | cons s steps ih =>
    simp only [tellings, List.map_append, List.map_map, ih]
    cases s with
    | started start result => rfl
    | raised irq answer => cases hd : done? answer <;> simp [EngineStep.answer?, hd]

/-- what an engine reports is not the end of a transfer -/
def QuietEngine (ε : Type) [TransferEngine ε] : Prop := ∀ start, (TransferEngine.start start : Action ε Unit).Plain

theorem Ready.launch (h : d.Ready depth clock) (hquiet : QuietEngine ε) (start : Start) :
    (launch start d).state.Ready depth clock ∧ d.registry.TellsNone depth (launch start d).state.registry := by
  cases hengine : d.engine with
  | some engine =>
    rw [launch_of_engine hengine]
    have ht := h.enrolled.publishAll (hquiet start engine)
    exact ⟨h.of_tells rfl rfl rfl h.idle ht, ht⟩
  | none =>
    rw [launch_of_board hengine]
    cases ho : d.table.onBank? d.config.mode.dmaBar start.program with
    | none => exact ⟨h, .refl h.enrolled⟩
    | some o =>
      have ht := h.enrolled.publishAll (RegisterTable.plain_onBank? start.plain_program ho)
      exact ⟨h.of_tells rfl rfl rfl h.idle ht, ht⟩

theorem dispatcher_launch (start : Start) (d : Device ε) : (launch start d).state.dispatcher = d.dispatcher := by
  cases h : d.engine with
  | some engine => rw [launch_of_engine h]
  | none =>
    rw [launch_of_board h]
    cases d.table.onBank? d.config.mode.dmaBar start.program <;> rfl

theorem behind_replayStep (h : d.dispatcher.Behind) (s : DeviceStep) : (d.replayStep s).dispatcher.Behind := by
  cases s with
  | started start result => exact (dispatcher_launch start d).symm ▸ h
  | raised irq answer =>
    cases answer with
    | error err => exact h
    | ok outcome =>
      cases outcome with
      | dmaDone r => exact h.dispatch _ _
      | spurious => exact h
      | forwarded source => exact h.dispatch _ _

theorem behind_replay (steps : List DeviceStep) (h : d.dispatcher.Behind) : (d.replay steps).dispatcher.Behind := by
  induction steps generalizing d with
  | nil => exact h
  | cons s steps ih => exact ih (behind_replayStep h s)

/-- an entry tells the sessions what it reports, or the worker falls behind -/
theorem Ready.replayStep (h : d.Ready depth clock) (hquiet : QuietEngine ε) (s : DeviceStep) :
    (d.replayStep s).Ready depth clock ∧
      d.registry.Tells depth (fun n => Telling.told depth clock n (tellings [s] d)) (d.replayStep s).registry ∨
    (d.replayStep s).dispatcher.Behind := by
  cases s with
  | started start result => exact .inl (h.launch hquiet start)
  | raised irq answer =>
    cases answer with
    | error err => exact .inl ⟨h, .refl h.enrolled⟩
    | ok outcome =>
      cases outcome with
      | spurious => exact .inl ⟨h, .refl h.enrolled⟩
      | forwarded source => exact h.tell (.interrupt source)
      | dmaDone r =>
        have hcounted : Ready depth clock { d with
            statistics := d.statistics.recordTransfer r.descriptor.direction r.descriptor.length
              (d.elapsed r.ticket) } :=
          ⟨h.depth_eq, h.clock_eq, h.enrolled, h.next, h.idle⟩
        have htold : ∀ n, ((dones [.ofPayload (.dmaDone r.ticket (d.elapsed r.ticket) r.cookie)]).filter fun p =>
            p.cookie? = some (sessionName n) ∧ d.registry.receives depth n) =
            Telling.told depth clock n (tellings [.raised irq (.ok (.dmaDone r))] d) := by
          intro n
          by_cases hyes : r.cookie = sessionName n ∧ d.registry.receives depth n <;>
            simp [dones, Event.ofPayload, Payload.kind, Payload.cookie?, Telling.told, Telling.payload, tellings,
              EngineStep.answer?, done?, h.clock_eq, hyes]
        have htell := hcounted.tell (.dmaDone r.ticket (d.elapsed r.ticket) r.cookie)
        simp only [htold] at htell
        exact htell

/-- **The sessions are told of each retirement as it is reported**, as long as the worker keeps up. -/
theorem Ready.replay (h : d.Ready depth clock) (hquiet : QuietEngine ε) (steps : List DeviceStep)
    (hqueue : (d.replay steps).dispatcher.queue = []) :
    (d.replay steps).Ready depth clock ∧
      d.registry.Tells depth (fun n => Telling.told depth clock n (tellings steps d)) (d.replay steps).registry := by
  induction steps generalizing d with
  | nil => exact ⟨h, .refl h.enrolled⟩
  | cons s steps ih =>
    rcases h.replayStep hquiet s with ⟨hready, htells⟩ | hbehind
    · obtain ⟨hafter, hrest⟩ := ih hready hqueue
      have hall := htells.trans hrest
      simp only [← Telling.told_append, ← tellings_cons] at hall
      exact ⟨hafter, hall⟩
    · -- a worker that is behind stays behind
      exact absurd hqueue (behind_replay steps hbehind).queue

/-! ## A command -/

/-- the events that an answer hands over -/
def given : Except Error Reply → List Event
  | .ok (.event e) => e.toList
  | .ok (.events es) => es
  | _ => []

omit [TransferEngine ε] in
theorem session?_cases {number : Nat} {s : Session} (h : d.session? number = some s) :
    ∃ t, d.registry.subscriber? number = some t ∧ s = { subscriber := number, id := t.id } := by
  obtain ⟨t, ht, rfl⟩ := Option.map_eq_some_iff.1 h
  exact ⟨t, ht, rfl⟩

omit [TransferEngine ε] in
/-- a session that is opened gets the next number, and the id that goes with it -/
theorem openSession_eq (h : d.Ready depth clock) :
    let number := d.registry.subscribers.length
    d.openSession = ({ subscriber := number, id := sessionName number }, { d with
      nextSession := d.nextSession + 1
      registry := (d.registry.add (.fresh (sessionName number) depth)).2.register number
      statistics := d.statistics.recordOpen }) := by
  intro number
  have hid : (⟨d.nextSession⟩ : Cookie) = sessionName number := congrArg Cookie.mk h.next
  unfold openSession
  rw [hid, h.depth_eq]
  rfl

namespace Moment

/-- the events that the command hands to a session -/
def dequeued (m : Moment ε) (number : Nat) : List Event :=
  match m.command with
  | .session asker .dequeue | .session asker .drain => if asker = number then given m.answer else []
  | _ => []

/-- the events thrown away with a session's queue when the command closes it -/
def discarded (m : Moment ε) (number : Nat) : List Event :=
  match m.command with
  | .session asker .close => if asker = number then m.before.registry.waiting asker else []
  | _ => []

def opened (m : Moment ε) : Nat := if m.command = .openSession then 1 else 0

/-- the retirements that the command brings about, each as its owner is told -/
def tellings (m : Moment ε) : List Telling := Device.tellings m.steps m.own

theorem map_retired_tellings (m : Moment ε) : m.tellings.map Telling.retired = m.retired :=
  Device.map_retired_tellings m.steps m.own

/-- what a session's request takes out of the queues -/
theorem yields_serve (h : d.Ready depth clock) (hlen : d.registry.subscribers.length ≤ 2 ^ 64) {number : Nat}
    {s : Session} (hs : d.session? number = some s) {request : SessionRequest}
    (hengine : request.drivesEngine = false) :
    let m : Moment ε := ⟨d, .session number request⟩
    Registry.Yields depth 0 (fun n => m.dequeued n ++ m.discarded n) d.registry m.after.registry := by
  intro m
  have hstep : d.step (.session number request) = serve s request d := by simp only [step, hs]
  have hafter : m.after = (serve s request d).2.1 := congrArg (·.2.1) hstep
  have hanswer : m.answer = (serve s request d).1 := congrArg (·.1) hstep
  obtain ⟨t, ht, rfl⟩ := session?_cases hs
  have same : Registry.Yields depth 0 (fun _ => []) d.registry d.registry := .of_tellsNone (.refl h.enrolled)
  have access : ∀ {α : Type} {x : Action (RegisterTable BoardBackend) α}, RegisterTable.UserAccess x →
      Registry.Yields depth 0 (fun _ => []) d.registry (d.control.adopt (x d.table)).2.registry :=
    fun hx => .of_tellsNone (h.enrolled.publishAll (hx.plain d.table))
  rw [hafter]
  cases request with
  | submit | simulate => cases hengine
  | setEventMask mask =>
    have hput := Registry.Yields.put h.enrolled ht (fun t => { t with enableMask := mask }) (fun _ => ⟨rfl, rfl⟩) [] rfl
    simp only [serve, setEventMask, modifySubscriber, control, ht]
    simpa [m, dequeued, discarded] using hput
  | setForwardingMask mask =>
    have hput := Registry.Yields.put h.enrolled ht (fun t => { t with irqMask := mask }) (fun _ => ⟨rfl, rfl⟩) [] rfl
    simp only [serve, setForwardingMask, modifySubscriber, control, ht]
    simpa [m, dequeued, discarded] using hput
  | dequeue =>
    have hput := Registry.Yields.put h.enrolled ht (fun t => t.dequeue.2)
      (fun t => by unfold Subscriber.dequeue; split <;> exact ⟨rfl, rfl⟩) t.dequeue.1.toList
      (by cases hq : t.queue <;> simp [Subscriber.dequeue, hq, dones, Event.stampDelivered])
    simp only [dequeued, discarded, hanswer, serve, dequeueEvent, ht, given, List.append_nil]
    exact hput
  | drain =>
    have hput := Registry.Yields.put h.enrolled ht (fun t => t.drain.2) (fun _ => ⟨rfl, rfl⟩) t.drain.1
      (by simp [Subscriber.drain])
    simp only [dequeued, discarded, hanswer, serve, drainEvents, ht, given, List.append_nil]
    exact hput
  | close => exact .closed h.enrolled hlen ht
  | read bar offset => exact access (.read bar offset)
  | readRange bar offset count => exact access (.readRange bar offset count)
  | write bar offset value => exact access (.write bar offset value)
  | modify bar offset clear set => exact access (.modify bar offset clear set)
  | setMode bar offset mode => exact access (.setMode bar offset mode)
  | poll => exact same
  | reset =>
    simp only [serve, reply, resetTransfers]
    split <;> exact same
  | setupMemory size =>
    simp only [serve, reply, setupMemory]
    split <;> exact same
  | transferMemory direction offset buffer =>
    simp only [serve, reply, transferMemory]
    split <;> exact same

variable {m : Moment ε}

/-- a session that is not open is handed nothing -/
theorem dequeued_of_closed {number : Nat} (h : m.before.registry.subscriber? number = none) :
    m.dequeued number = [] := by
  obtain ⟨d, c⟩ := m
  cases c with
  | session asker request =>
    cases request with
    | dequeue | drain =>
      by_cases heq : asker = number
      · subst heq
        have hs : d.session? asker = none := Option.map_eq_none_iff.2 h
        simp [dequeued, answer, step, hs, given]
      · simp [dequeued, heq]
    | _ => rfl
  | _ => rfl

/-- a session whose queue is thrown away is closed -/
theorem closed_of_discarded {number : Nat} (h : m.discarded number ≠ []) :
    number < m.before.registry.subscribers.length ∧ m.own.registry.subscriber? number = none := by
  obtain ⟨d, c⟩ := m
  cases c with
  | session asker request =>
    cases request with
    | close =>
      by_cases heq : asker = number
      · subst heq
        cases ht : d.registry.subscriber? asker with
        | none => simp [discarded, Registry.waiting, ht] at h
        | some t =>
          have hs : d.session? asker = some { subscriber := asker, id := t.id } := by simp [session?, ht]
          refine ⟨Registry.lt_length_of_subscriber? ht, ?_⟩
          have hown : (⟨d, .session asker .close⟩ : Moment ε).own.registry =
              (d.registry.unregister t.id).2.forget asker := by
            simp only [own, after, step, hs]
            rfl
          rw [hown, Registry.subscriber?_forget, if_pos rfl]
      · simp [discarded, heq] at h
    | _ => exact absurd rfl h
  | _ => exact absurd rfl h

/-- what a command takes out of the queues of itself -/
theorem yields (h : m.before.Ready depth clock) (hlen : m.before.registry.subscribers.length ≤ 2 ^ 64) :
    m.before.registry.Yields depth m.opened (fun n => m.dequeued n ++ m.discarded n) m.own.registry := by
  have same : m.before.registry.Yields depth 0 (fun _ => []) m.before.registry := .of_tellsNone (.refl h.enrolled)
  obtain ⟨d, c⟩ := m
  cases c with
  | openSession =>
    have hopened := Registry.Yields.opened h.enrolled
    have hown : (⟨d, .openSession⟩ : Moment ε).own = d.openSession.2 := rfl
    rw [hown, openSession_eq h]
    exact hopened
  | release =>
    have hrelease := h.idle.release d.registry
    simp only [own, after, step, release, hrelease]
    exact same
  | session number request =>
    cases hs : d.session? number with
    | none =>
      have hnone : d.registry.subscriber? number = none := Option.map_eq_none_iff.1 hs
      have hown : (⟨d, .session number request⟩ : Moment ε).own = d := by
        cases request <;> simp [own, after, step, hs]
      have hleft : ∀ n, (⟨d, .session number request⟩ : Moment ε).dequeued n ++
          (⟨d, .session number request⟩ : Moment ε).discarded n = [] := by
        intro n
        cases request <;>
          simp [dequeued, discarded, answer, step, hs, given, Registry.waiting, hnone]
      simp only [hown, hleft]
      exact same
    | some s =>
      cases request with
      | submit direction system device length watched =>
        simp only [own]
        split <;> exact same
      | simulate source =>
        simp only [own]
        split <;> exact same
      | _ => exact yields_serve h hlen hs rfl
  | _ => exact same

/-- the worker and the next session's id after what a command does of itself -/
theorem keeps_own (h : m.before.dispatcher.Idle) :
    m.own.dispatcher.Idle ∧ m.own.nextSession = m.before.nextSession + UInt64.ofNat m.opened := by
  have zero : ∀ id : UInt64, id = id + UInt64.ofNat 0 := fun id => (UInt64.add_zero id).symm
  obtain ⟨d, c⟩ := m
  cases c with
  | openSession => exact ⟨h, rfl⟩
  | hold => exact ⟨h.hold, zero _⟩
  | release =>
    have hrelease := h.release d.registry
    simp only [own, after, step, release, hrelease]
    exact ⟨⟨h.pool, h.holding, h.queue⟩, zero _⟩
  | session number request =>
    rcases own_session_cases d number request with hown | hown | ⟨s, -, hengine, hown⟩
    · rw [hown]
      exact ⟨h, zero _⟩
    · rw [hown]
      exact ⟨h, zero _⟩
    · obtain ⟨-, hdispatcher, hnext⟩ := serve_fixed s hengine d
      rw [hown, hdispatcher, hnext]
      exact ⟨h, zero _⟩
  | _ => exact ⟨h, zero _⟩

theorem ready_own (h : m.before.Ready depth clock) (hlen : m.before.registry.subscribers.length ≤ 2 ^ 64) :
    m.own.Ready depth clock := by
  obtain ⟨hidle, hnext⟩ := m.keeps_own h.idle
  have hyields := yields h hlen
  refine ⟨?_, m.own_fixed.elapsed.trans h.clock_eq, hyields.enrolled, ?_, hidle⟩
  · rw [m.own_fixed.config]
    exact h.depth_eq
  · rw [hnext, h.next, hyields.length, ← UInt64.ofNat_add]
    congr 1
    omega

/-- **A command and what came of it**: afterwards the device is ready again, and the sessions have been told. -/
theorem ready_after (h : m.before.Ready depth clock) (hlen : m.before.registry.subscribers.length ≤ 2 ^ 64)
    (hquiet : QuietEngine ε) (hqueue : m.after.dispatcher.queue = []) :
    m.after.Ready depth clock ∧
      m.own.registry.Tells depth (fun n => Telling.told depth clock n m.tellings) m.after.registry := by
  have hafter : m.after = (m.own.replay m.steps).withLedger m.after.ledger := m.replays
  rw [hafter] at hqueue ⊢
  obtain ⟨hready, htells⟩ := (ready_own h hlen).replay hquiet m.steps hqueue
  exact ⟨⟨hready.depth_eq, hready.clock_eq, hready.enrolled, hready.next, hready.idle⟩, htells⟩

end Moment
end Device
end BoardDriver
