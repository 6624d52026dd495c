/-
A transfer on a simulated board that has nothing else to do.

The board has one channel and raises no interrupt of its own, so whoever submits a transfer has to raise the completion
as well. On a board at rest this comes out even: the transfer starts at once, the interrupt finds it and nothing else,
its owner is told, the handle turns complete, and the board rests again.

- `Scheduler.lone`: the one channel with its interrupt, idle or busy;
- `RegisterTable.Simulates.program_result`: simulated registers refuse no start and tell nobody of it;
- `Device.Rests`: nothing runs or waits, and the worker goes on;
- `Rests.submitTransfer_eq`, `simulateFor_of_busy`: the two halves of the trip, with all that they change;
- `Device.RoundTrip`, `Rests.roundTrip`: the whole of it.
-/
import BoardDriver.Proofs.RegisterDisplay
import BoardDriver.Proofs.SimulatedInterrupt
import BoardDriver.Proofs.TransferAccounting

namespace BoardDriver

/-! ## One channel -/

namespace Scheduler

/-- one channel, bound to an interrupt, that carries out a request or is idle; nothing waits -/
def lone (irq : UInt32) (r : Option Request) : Scheduler where
  channels := [{ irq := some irq, inProgress := r }]
  idle := if r.isSome then 0#32 else 1#32

variable {irq : UInt32} {r : Request}

theorem submit_lone (irq : UInt32) (r : Request) :
    (lone irq none).submit r = (some (r.startOn 0), lone irq (some r)) := by
  have hlowest : Bits.lowest? 1#32 = some 0 := by decide
  have herased : Bits.erase 1#32 0 = 0#32 := by decide
  rw [submit_of_idle (s := lone irq none) hlowest r]
  simp [lone, assign, modifyChannel, herased]

theorem complete_lone (irq : UInt32) (r : Request) :
    (lone irq (some r)).complete irq = .ok ({ channel := 0, request := r, next := none }, lone irq none) := by
  have hchannel : (lone irq (some r)).channelOf? irq = some 0 := by simp [channelOf?, lone]
  have hrunning : (lone irq (some r)).running? 0 = some r := rfl
  have hinserted : Bits.insert 0#32 0 = 1#32 := by decide
  simp only [complete, hchannel, hrunning]
  simp [lone, assign, modifyChannel, hinserted]

end Scheduler

/-! ## Starting it -/

namespace RegisterTable

variable {t : RegisterTable BoardBackend} {w : MappedWindow}

/-- simulated registers refuse no start, and nobody is told of it -/
theorem Simulates.program_result (h : Simulates w t) (s : Start) {o : Outcome (RegisterTable BoardBackend) Unit}
    (ho : t.onBank? 0 s.program = some o) : o.result = .ok () ∧ o.events = [] := by
  obtain ⟨b, f, hb, hbackend, -, hf⟩ := h.bank
  have hagree := Action.agree_sequence (R := BoardBackend.MirroredBy 512)
    (f := fun v : UInt32 × UInt32 => RegisterBackend.write v.1 v.2) (g := fun v => RegisterBackend.write v.1 v.2)
    s.writes fun v hv => BoardBackend.agree_write 512 v.2 (Start.mem_writes_range hv).1
  have hagrees := hagree _ _ ⟨f, w, rfl, rfl, hf⟩
  have hfits : ∀ v ∈ s.writes, w.check v.1 = .ok () := by
    intro v hv
    obtain ⟨haligned, -, hlt⟩ := Start.mem_writes_range hv
    refine (w.check_eq_ok_iff v.1).2 ⟨haligned, ?_⟩
    rw [hf.extent, registerBytes]
    omega
  simp only [onBank?, bank?, hb, Option.map_some, Option.some.injEq] at ho
  subst ho
  simp only [Action.on, Start.program, RegisterBank.writeSequence, RegisterBank.onBackend, hbackend]
  refine ⟨hagrees.result.trans ?_, hagrees.quiet.1⟩
  rw [MappedWindow.sequence_write s.writes hf.start hfits]

end RegisterTable

namespace Device

variable {ε : Type} {d : Device ε}

theorem Shows.forget {starts : List Start} (h : Shows starts d) : Shows [] d := by
  obtain ⟨w, hw, -⟩ := h.registers
  exact ⟨h.config, h.engine, w, hw, nofun⟩

/-- what the board's own engine does with a start on simulated registers: it changes them, and nothing else -/
theorem Shows.launch_eq [TransferEngine ε] {starts : List Start} (h : Shows starts d) (s : Start) :
    ∃ table, Device.launch s d = { result := .ok (), state := { d with table := table } } := by
  obtain ⟨w, hw, -⟩ := h.registers
  obtain ⟨o, ho, -⟩ := hw.program s
  obtain ⟨hresult, hevents⟩ := hw.program_result s ho
  have hbar : d.config.mode.dmaBar = 0 := by rw [h.config]; rfl
  refine ⟨o.state, ?_⟩
  simp only [Device.launch, h.engine, onBank?, hbar, ho, Option.map_some, adopt, hresult, hevents]
  rfl

/-! ## A board at rest -/

/-- a simulated board with one channel, which is idle, and a worker that goes on and has nothing to do -/
structure Rests (d : Device ε) : Prop where
  shows : Shows [] d
  scheduler : d.ledger.scheduler = .lone d.config.irqBase none
  worker : d.dispatcher.Idle
  pace : d.dispatcher.pace = .running

/-- the request that a watched submission makes -/
def nextRequest (d : Device ε) (s : Session) (descriptor : TransferDescriptor) : Request where
  descriptor := descriptor
  ticket := d.ledger.tickets.deal.1
  cookie := s.id
  completion := some d.ledger.completions.entries.length

/-- the books while the board carries the request out -/
def busyLedger (d : Device ε) (r : Request) : TransferLedger where
  scheduler := .lone d.config.irqBase (some r)
  tickets := d.ledger.tickets.deal.2
  completions := d.ledger.completions.add.2

/-- the board while it carries the request out -/
def busyWith (r : Request) (table : RegisterTable BoardBackend) (d : Device ε) : Device ε :=
  { d.control with ledger := d.busyLedger r, table := table }

/-- the board once it has carried the request out -/
def relievedOf (r : Request) (d : Device ε) : Device ε :=
  { d.control with
    ledger := { d.ledger with
      scheduler := .lone d.config.irqBase none
      completions := d.ledger.completions.signal r.completion }
    statistics :=
      d.control.statistics.recordTransfer r.descriptor.direction r.descriptor.length (d.elapsed r.ticket)
    registry := (d.registry.publish (.ofPayload (.dmaDone r.ticket (d.elapsed r.ticket) r.cookie))).2 }

variable [TransferEngine ε]

/-- a submission to a board at rest is started at once -/
theorem Rests.submitTransfer_eq (h : Rests d) (s : Session) (direction : Direction) (system device : UInt32)
    {length : UInt32} (hlength : length ≠ 0) :
    let r := d.nextRequest s (.between direction system device length)
    ∃ table, d.submitTransfer s direction system device length true =
        (.ok (r.ticket, some { entry := d.ledger.completions.entries.length, ticket := r.ticket }),
          d.busyWith r table, { steps := [.started (r.startOn 0) (.ok ())] }) ∧
      Shows [r.startOn 0] (d.busyWith r table) := by
  intro r
  let busy : Device ε := { d.control with ledger := d.busyLedger r }
  have hbusy : Shows [] busy := h.shows.of_eq ⟨rfl, rfl, rfl⟩ rfl
  obtain ⟨table, hlaunch⟩ := hbusy.launch_eq (r.startOn 0)
  have hshows := hbusy.launch (r.startOn 0)
  rw [hlaunch] at hshows
  refine ⟨table, ?_, hshows⟩
  let handedOut : TransferLedger :=
    { d.ledger with tickets := d.ledger.tickets.deal.2, completions := d.ledger.completions.add.2 }
  have hmade : d.control.ledger.newRequest (.between direction system device length) s.id true =
      (r, some { entry := d.ledger.completions.entries.length, ticket := r.ticket }, handedOut) := rfl
  have hstart : handedOut.submit r = (some (r.startOn 0), d.busyLedger r) := by
    simp only [TransferLedger.submit, handedOut, h.scheduler, Scheduler.submit_lone]
    rfl
  have hsubmit : submit r { d.control with ledger := handedOut } =
      (d.busyWith r table, { steps := [.started (r.startOn 0) (.ok ())] }) := by
    simp only [submit, hstart, kickOff?, kickOff]
    rw [hlaunch]
    rfl
  simp only [submitTransfer, if_neg hlength, hmade, hsubmit]

omit [TransferEngine ε] in
/-- a worker that goes on and has nothing to do publishes an event at once -/
theorem tell_of_running (hworker : d.dispatcher.Idle) (hpace : d.dispatcher.pace = .running) (p : Payload) :
    d.tell p = { d with registry := (d.registry.publish (.ofPayload p)).2 } := by
  have hrunning : ({ d.dispatcher with pace := .running } : Dispatcher) = d.dispatcher := by rw [← hpace]
  have hdispatch := hworker.dispatch (.ofPayload p) d.registry
  rw [hpace, if_neg (by decide), if_neg (by decide), hrunning] at hdispatch
  simp only [tell, hdispatch]

/-- the interrupt of the first vector finds the transfer of a busy board -/
theorem simulateFor_of_busy {r : Request} (hmode : d.config.mode = .simulator)
    (hscheduler : d.ledger.scheduler = .lone d.config.irqBase (some r)) (hworker : d.dispatcher.Idle)
    (hpace : d.dispatcher.pace = .running) :
    d.simulateFor (sourceOfVector 0) = (.ok (.dmaDone (r.retiredOn 0)), d.relievedOf r, {}) := by
  have hfit : d.config.irqBase.toNat + 0 < 2 ^ 32 := d.config.irqBase.toNat_lt
  have hlowest : LowestBit (sourceOfVector 0) 0 := by decide
  have hroute : d.router.route d.config.irqBase = .ok (.dma 0) := by
    have hadd := d.router.route_add (v := 0) (by decide) hfit
    rw [show d.router.mode = .simulator from hmode] at hadd
    rw [← UInt32.add_zero d.config.irqBase]
    exact hadd
  have hretire : d.ledger.retire d.config.irqBase =
      .ok ({ channel := 0, request := r, next := none }, (d.relievedOf r).ledger) := by
    simp only [TransferLedger.retire, hscheduler, Scheduler.complete_lone]
    rfl
  have hirq : d.control.config.irqBase + UInt32.ofNat 0 = d.config.irqBase := UInt32.add_zero _
  rw [simulateFor, simulate_of_lowestBit (d := d.control) hmode hlowest hfit, interrupt_eq, hirq]
  simp only [interruptWith, show d.control.router.route d.config.irqBase = _ from hroute, retireWith,
    show d.control.ledger.retire d.config.irqBase = _ from hretire, kickOff?, account]
  rw [tell_of_running]
  · rfl
  · exact hworker
  · exact hpace

/-! ## There and back -/

/-- a transfer is submitted to `d`, which leaves `e`, and its completion is raised, which leaves `f` -/
structure RoundTrip (s : Session) (handle : CompletionHandle) (direction : Direction) (system device length : UInt32)
    (d e f : Device ε) : Prop where
  /-- the submission is answered with the handle, and all that the engine does is to start the transfer -/
  submitted : d.submitTransfer s direction system device length true =
    (.ok (handle.ticket, some handle), e,
      { steps := [.started { channel := 0, ticket := handle.ticket
                             descriptor := .between direction system device length } (.ok ())] })
  /-- the registers hold the transfer -/
  programmed : (e.readRegister 0 DmaRegister.channel).1 = .ok 0 ∧
    (e.readRegister 0 DmaRegister.source).1 = .ok (if direction = .down then system else device) ∧
    (e.readRegister 0 DmaRegister.destination).1 = .ok (if direction = .down then device else system) ∧
    (e.readRegister 0 DmaRegister.direction).1 = .ok direction.registerValue ∧
    (e.readRegister 0 DmaRegister.length).1 = .ok length ∧
    (e.readRegister 0 DmaRegister.start).1 = .ok 1
  /-- the interrupt of the first vector retires this transfer, and starts no other -/
  retired : e.simulateFor (sourceOfVector 0) =
    (.ok (.dmaDone { channel := 0, ticket := handle.ticket, cookie := s.id
                     descriptor := .between direction system device length }), f, {})
  /-- a wait for it is over at once -/
  waited : f.await handle = .ok handle.ticket

/-- what a round trip leaves of a board at rest: a ticket is gone, the transfer is counted, and its owner is told -/
structure Returned (r : Retired) (d f : Device ε) : Prop where
  rests : f.Rests
  config : f.config = d.config
  elapsed : f.elapsed = d.elapsed
  tickets : d.ledger.tickets.deal = (r.ticket, f.ledger.tickets)
  counts : d.statistics.Counts [r] f.statistics
  registry : f.registry = (d.registry.publish (.ofPayload (.dmaDone r.ticket (d.elapsed r.ticket) r.cookie))).2

omit [TransferEngine ε] in
theorem Shows.programmed {ticket : Ticket} {direction : Direction} {system device length : UInt32}
    (h : Shows [{ channel := 0, ticket := ticket, descriptor := .between direction system device length }] d) :
    (d.readRegister 0 DmaRegister.channel).1 = .ok 0 ∧
      (d.readRegister 0 DmaRegister.source).1 = .ok (if direction = .down then system else device) ∧
      (d.readRegister 0 DmaRegister.destination).1 = .ok (if direction = .down then device else system) ∧
      (d.readRegister 0 DmaRegister.direction).1 = .ok direction.registerValue ∧
      (d.readRegister 0 DmaRegister.length).1 = .ok length ∧
      (d.readRegister 0 DmaRegister.start).1 = .ok 1 := by
  have hread : ∀ v ∈ Start.writes ⟨0, ticket, .between direction system device length⟩,
      (d.readRegister 0 v.1).1 = .ok v.2 := fun v hv => h.readRegister rfl hv
  simp only [Start.writes, List.forall_mem_cons] at hread
  obtain ⟨hchannel, hsource, hdestination, hdirection, hlength, hstart, -⟩ := hread
  cases direction with
  | down => exact ⟨hchannel, hsource, hdestination, hdirection, hlength, hstart⟩
  | up => exact ⟨hchannel, hsource, hdestination, hdirection, hlength, hstart⟩

/-- the handle of a request that has just been made is complete once the request is retired -/
theorem wait_signal_add (t : CompletionTable) (ticket : Ticket) (patience : Duration) :
    (t.add.2.signal (some t.entries.length)).wait { entry := t.entries.length, ticket := ticket } patience =
      .ok ticket := by
  have hcomplete : (t.add.2.signal (some t.entries.length)).isComplete t.entries.length = true := by
    rw [CompletionTable.isComplete_signal_iff]
    exact .inr ⟨rfl, by simp [CompletionTable.add]⟩
  exact if_pos hcomplete

omit [TransferEngine ε] in
theorem Rests.returned (h : Rests d) {r : Request} {table : RegisterTable BoardBackend}
    (hticket : r.ticket = d.ledger.tickets.deal.1) (hshows : Shows [r.startOn 0] (d.busyWith r table)) :
    Returned (r.retiredOn 0) d ((d.busyWith r table).relievedOf r) := by
  have hrelieved : Shows [r.startOn 0] ((d.busyWith r table).relievedOf r) := hshows.of_eq ⟨rfl, rfl, rfl⟩ rfl
  have hcontrols : d.statistics.Counts [] d.control.control.statistics := by
    apply Statistics.Counts.of_counters_eq
    intro direction
    cases direction <;> rfl
  exact {
    rests := ⟨hrelieved.forget, rfl, h.worker, h.pace⟩
    config := rfl
    elapsed := rfl
    tickets := Prod.ext hticket.symm rfl
    counts := hcontrols.trans (Statistics.countsOne_recordTransfer _ _ _ _).counts
    registry := rfl }

/-- **A board at rest carries a transfer out and rests again.** -/
theorem Rests.roundTrip (h : Rests d) (s : Session) (direction : Direction) (system device : UInt32)
    {length : UInt32} (hlength : length ≠ 0) :
    ∃ handle e f, RoundTrip s handle direction system device length d e f ∧
      Returned { channel := 0, ticket := handle.ticket, cookie := s.id
                 descriptor := .between direction system device length } d f := by
  obtain ⟨table, hsubmit, hshows⟩ := h.submitTransfer_eq s direction system device hlength
  let r := d.nextRequest s (.between direction system device length)
  let handle : CompletionHandle := { entry := d.ledger.completions.entries.length, ticket := r.ticket }
  have hretire : (d.busyWith r table).simulateFor (sourceOfVector 0) =
      (.ok (.dmaDone (r.retiredOn 0)), (d.busyWith r table).relievedOf r, {}) :=
    simulateFor_of_busy hshows.config rfl h.worker h.pace
  have hwait : ((d.busyWith r table).relievedOf r).await handle = .ok handle.ticket := wait_signal_add _ _ _
  exact ⟨handle, _, _, ⟨hsubmit, hshows.programmed, hretire, hwait⟩, h.returned rfl hshows⟩

/-- only a simulated board can be told to raise an interrupt -/
theorem isSimulator_of_simulateFor {source : UInt32} {outcome : InterruptOutcome}
    (h : (d.simulateFor source).1 = .ok outcome) : d.config.mode.isSimulator = true := by
  by_contra hmode
  have hrefused : d.control.requireSimulator "simulate_irq" = .error (.notSimulator "simulate_irq") := if_neg hmode
  simp only [simulateFor, simulate, hrefused] at h
  cases h

end Device
end BoardDriver
