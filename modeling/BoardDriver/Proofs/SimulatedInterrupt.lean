/-
A simulated interrupt acts through the lowest bit of its source.

Tests of the board hand the driver a map of sources. It takes the lowest bit, adds the base to find the number under
which the interrupt would arrive, and answers that number as it answers the hardware; the router subtracts the base
again. What is left of the map after that is the one bit, and it is the bit that the sessions see.

- `LowestBit.and_neg`: the two's complement picks out the lowest bit;
- `Device.ActsThrough`, `Device.actsThrough_lowestBit`: how a source is refused, and what it does otherwise, in every
  state of the simulator;
- `Dispatcher.workOff_publishes`, `Dispatcher.release_dispatch`: an event that found a place is published after those
  before it, whatever the worker was doing;
- `Device.Heard`: who receives it;
- `Device.simulated_through_lowestBit`: the whole of it, after any run of a simulator.
-/
import BoardDriver.Proofs.DispatchOrder
import BoardDriver.Proofs.SessionRoster
import BoardDriver.Proofs.SubscriberIsolation

namespace BoardDriver

/-! ## The lowest bit -/

/-- position `v` is the lowest that is set -/
def LowestBit (source : UInt32) (v : Nat) : Prop :=
  source.toNat.testBit v = true ∧ ∀ j < v, source.toNat.testBit j = false

instance (source : UInt32) (v : Nat) : Decidable (LowestBit source v) := inferInstanceAs (Decidable (_ ∧ _))

namespace LowestBit

variable {source : UInt32} {v v' : Nat}

theorem iff_vectorOfSource? (source : UInt32) (v : Nat) : LowestBit source v ↔ vectorOfSource? source = some v :=
  (Bits.lowest?_eq_some_iff source.toBitVec v).symm

theorem unique (h : LowestBit source v) (h' : LowestBit source v') : v = v' := by
  rw [iff_vectorOfSource?] at h h'
  exact Option.some.inj (h.symm.trans h')

theorem exists_of_ne_zero (h : source ≠ 0) : ∃ v, LowestBit source v := by
  cases hv : vectorOfSource? source with
  | none => exact absurd (UInt32.toBitVec_inj.1 ((Bits.lowest?_eq_none_iff _).1 hv)) h
  | some v => exact ⟨v, (iff_vectorOfSource? source v).2 hv⟩

theorem lt_vectorCount (h : LowestBit source v) : v < vectorCount := BitVec.lt_of_getLsbD h.1

/-- below the lowest bit a number and its negative are zero, above it they differ everywhere -/
theorem and_neg (h : LowestBit source v) : source &&& -source = sourceOfVector v := by
  rw [← UInt32.toBitVec_inj, UInt32.toBitVec_and, UInt32.toBitVec_neg]
  change _ = BitVec.twoPow 32 v
  obtain ⟨hset, hclear⟩ := h
  have hset : source.toBitVec.getLsbD v = true := hset
  have hclear : ∀ j < v, source.toBitVec.getLsbD j = false := hclear
  apply BitVec.eq_of_getLsbD_eq
  intro i hi
  rw [BitVec.getLsbD_and, BitVec.getLsbD_neg, BitVec.getLsbD_twoPow]
  rcases Nat.lt_trichotomy i v with hlt | rfl | hgt
  · simp [hclear i hlt, Nat.ne_of_gt hlt]
  · have hbelow : ¬ ∃ j < i, source.toBitVec.getLsbD j = true := by
      rintro ⟨j, hj, hbit⟩
      rw [hclear j hj] at hbit
      cases hbit
    simp [hset, hbelow, hi]
  · have hbelow : ∃ j < i, source.toBitVec.getLsbD j = true := ⟨v, hgt, hset⟩
    simp [hbelow, hi, Nat.ne_of_lt hgt]

end LowestBit

/-! ## What the source does -/

namespace Device

variable {ε : Type} [TransferEngine ε]

/-- what a simulated interrupt comes to, told from the lowest bit of its source -/
structure ActsThrough (source : UInt32) (d : Device ε) : Prop where
  zero : source = 0 → d.simulate source = (.error (.invalidArgument .emptySource), d, {})
  overflow : ∀ v, LowestBit source v → 2 ^ 32 ≤ d.config.irqBase.toNat + v →
    d.simulate source = (.error (.invalidArgument .irqOverflow), d, {})
  disabled : ∀ v, LowestBit source v → d.config.irqBase.toNat + v < 2 ^ 32 → d.config.mode.vector v = .disabled →
    d.simulate source = (.error (.invalidArgument (.vectorDisabled v)), d, {})
  /-- otherwise it is the interrupt of the vector, and the number leads back to the vector -/
  raised : ∀ v, LowestBit source v → d.config.irqBase.toNat + v < 2 ^ 32 → (d.config.mode.vector v).isEnabled = true →
    d.simulate source = d.interrupt (d.config.irqBase + UInt32.ofNat v) ∧
    (∀ w, d.router.Arrives w (d.config.irqBase + UInt32.ofNat v) ↔ w = v) ∧
    ∃ route, d.router.route (d.config.irqBase + UInt32.ofNat v) = .ok route ∧
      ((∃ c, d.config.mode.vector v = .dmaDone c ∧ route = .dma c) ∨
        ∃ name, d.config.mode.vector v = .source name ∧ route = .source v name)
  /-- the source that is told is the lowest bit alone -/
  forwarded_iff : ∀ s, (d.simulate source).1 = .ok (.forwarded s) ↔ s = source &&& -source ∧
    ∃ v name, LowestBit source v ∧ d.config.irqBase.toNat + v < 2 ^ 32 ∧ d.config.mode.vector v = .source name

variable {d : Device ε}

/-- on the simulator the number of the source is answered, if it has one -/
theorem simulate_eq (hmode : d.config.mode = .simulator) (source : UInt32) :
    d.simulate source = match d.router.irqForSource source with
      | .error e => (.error e, d, {})
      | .ok irq => d.interrupt irq := by
  have hsimulator : d.requireSimulator "simulate_irq" = .ok () := if_pos (by rw [hmode]; rfl)
  simp only [simulate, hsimulator]
  rfl

theorem simulate_zero (hmode : d.config.mode = .simulator) :
    d.simulate 0 = (.error (.invalidArgument .emptySource), d, {}) := by
  have hnone : d.router.irqForSource 0 = .error (.invalidArgument .emptySource) := rfl
  rw [simulate_eq hmode, hnone]

theorem simulate_of_overflow (hmode : d.config.mode = .simulator) {source : UInt32} {v : Nat}
    (hv : LowestBit source v) (hbig : 2 ^ 32 ≤ d.config.irqBase.toNat + v) :
    d.simulate source = (.error (.invalidArgument .irqOverflow), d, {}) := by
  have hover : d.router.irqForSource source = .error (.invalidArgument .irqOverflow) := by
    simp only [InterruptRouter.irqForSource, (LowestBit.iff_vectorOfSource? source v).1 hv, router]
    exact if_neg (Nat.not_lt.2 hbig)
  rw [simulate_eq hmode, hover]

theorem simulate_of_lowestBit (hmode : d.config.mode = .simulator) {source : UInt32} {v : Nat}
    (hv : LowestBit source v) (hfit : d.config.irqBase.toNat + v < 2 ^ 32) :
    d.simulate source = d.interrupt (d.config.irqBase + UInt32.ofNat v) := by
  have hnumber : d.router.irqForSource source = .ok (d.config.irqBase + UInt32.ofNat v) := by
    simp only [InterruptRouter.irqForSource, (LowestBit.iff_vectorOfSource? source v).1 hv, router]
    exact if_pos hfit
  rw [simulate_eq hmode, hnumber]

omit [TransferEngine ε] in
/-- the number that the lowest bit stands for is that of its vector -/
theorem arrives_of_lowestBit {source : UInt32} {v : Nat} (hv : LowestBit source v)
    (hfit : d.config.irqBase.toNat + v < 2 ^ 32) : d.router.Arrives v (d.config.irqBase + UInt32.ofNat v) :=
  ⟨hv.lt_vectorCount, toNat_add_ofNat hfit⟩

/-- a source that is told is its lowest bit alone, and that of a vector with a source -/
theorem simulate_forwarded_iff (hmode : d.config.mode = .simulator) (source s : UInt32) :
    (d.simulate source).1 = .ok (.forwarded s) ↔ s = source &&& -source ∧
      ∃ v name, LowestBit source v ∧ d.config.irqBase.toNat + v < 2 ^ 32 ∧ d.config.mode.vector v = .source name := by
  by_cases hzero : source = 0
  case pos =>
    rw [hzero, simulate_zero hmode]
    refine iff_of_false (fun h => by cases h) ?_
    rintro ⟨-, v, name, hv, -⟩
    have hbit := hv.1
    simp at hbit
  obtain ⟨v, hv⟩ := LowestBit.exists_of_ne_zero hzero
  by_cases hfit : d.config.irqBase.toNat + v < 2 ^ 32
  case neg =>
    rw [simulate_of_overflow hmode hv (Nat.le_of_not_lt hfit)]
    refine iff_of_false (fun h => by cases h) ?_
    rintro ⟨-, w, name, hw, hwfit, -⟩
    exact hfit (hv.unique hw ▸ hwfit)
  have harrives := arrives_of_lowestBit hv hfit
  rw [simulate_of_lowestBit hmode hv hfit, (interrupt_cases _ d).forwarded_iff s, hv.and_neg]
  constructor
  · rintro ⟨w, name, hw, hvector, hs⟩
    obtain rfl := hw.unique harrives
    refine ⟨?_, w, name, hv, hfit, hvector⟩
    rw [← UInt32.toNat_inj, hs, toNat_sourceOfVector hw.1]
  · rintro ⟨rfl, w, name, hw, -, hvector⟩
    obtain rfl := hw.unique hv
    exact ⟨w, name, harrives, hvector, toNat_sourceOfVector harrives.1⟩

/-- in every state of the simulator -/
theorem actsThrough_lowestBit (hmode : d.config.mode = .simulator) (source : UInt32) : ActsThrough source d where
  zero hzero := hzero ▸ simulate_zero hmode
  overflow v hv hbig := simulate_of_overflow hmode hv hbig
  disabled v hv hfit hvector := by
    have hroute := d.router.route_add hv.lt_vectorCount hfit
    rw [show d.router.mode.vector v = .disabled from hvector] at hroute
    have herror : d.interrupt (d.config.irqBase + UInt32.ofNat v) =
        (.error (.invalidArgument (.vectorDisabled v)), d, {}) := by
      simp only [interrupt_eq, interruptWith, show d.router.route (d.config.irqBase + UInt32.ofNat v) = _ from hroute]
    rw [simulate_of_lowestBit hmode hv hfit, herror]
  raised v hv hfit henabled := by
    have harrives := arrives_of_lowestBit hv hfit
    refine ⟨simulate_of_lowestBit hmode hv hfit, ?_, ?_⟩
    · intro w
      constructor
      · exact fun hw => hw.unique harrives
      · rintro rfl
        exact harrives
    · have hroute := InterruptRouter.route_of_arrives harrives
      rw [show d.router.mode.vector v = d.config.mode.vector v from rfl] at hroute
      cases hvector : d.config.mode.vector v with
      | dmaDone c =>
        rw [hvector] at hroute
        exact ⟨_, hroute, .inl ⟨c, rfl, rfl⟩⟩
      | source name =>
        rw [hvector] at hroute
        exact ⟨_, hroute, .inr ⟨name, rfl, rfl⟩⟩
      | disabled =>
        rw [hvector] at henabled
        cases henabled
  forwarded_iff s := simulate_forwarded_iff hmode source s

end Device

/-! ## Once the worker has got to it -/

theorem Registry.publishAll_append (r : Registry) (es fs : List Event) :
    r.publishAll (es ++ fs) = (r.publishAll es).publishAll fs := List.foldl_append ..

namespace Dispatcher

variable {d : Dispatcher}

/-- the events on their way -/
def backlog (d : Dispatcher) : List Event := d.jobs.filterMap Job.event?

/-- the worker takes the first job, unless it holds it already -/
theorem getD_take (d : Dispatcher) : d.take.getD d = { d with holding := d.jobs.head?, queue := d.jobs.tail } := by
  obtain ⟨pool, queue, holding, lost, pace⟩ := d
  cases holding with
  | none => cases queue <;> rfl
  | some j => rfl

/-- the worker has nothing to do, or it finishes the first job -/
theorem finish_take_cases (d : Dispatcher) (r : Registry) :
    d.jobs = [] ∧ (d.take.getD d).finish r = none ∨
      ∃ j d', d.jobs = j :: d'.jobs ∧ (d.take.getD d).finish r = some (d', r.publishAll j.event?.toList) ∧
        (d.pace = .running → d'.pace = .running) := by
  rw [getD_take]
  cases hjobs : d.jobs with
  | nil => exact .inl ⟨rfl, rfl⟩
  | cons j rest =>
    right
    cases j with
    | publish e =>
      refine ⟨.publish e, { d with queue := rest, holding := none, pace := _ }, rfl, rfl, ?_⟩
      intro hpace
      simp [hpace]
    | marker n => exact ⟨.marker n, { d with queue := rest, holding := none }, rfl, rfl, id⟩

/-- the worker publishes the first of the events on their way, in order, and leaves the others where they are -/
theorem workOff_publishes (jobs : Nat) (d : Dispatcher) (r : Registry) :
    ∃ done, d.backlog = done ++ (d.workOff jobs r).1.backlog ∧ (d.workOff jobs r).2 = r.publishAll done := by
  induction jobs generalizing d r with
  | zero => exact ⟨[], rfl, rfl⟩
  | succ jobs ih =>
    rw [workOff]
    split
    · exact ⟨[], rfl, rfl⟩
    · rcases d.finish_take_cases r with ⟨-, hnone⟩ | ⟨j, d', hjobs, hfinish, -⟩
      · rw [hnone]
        exact ⟨[], rfl, rfl⟩
      · obtain ⟨done, hbacklog, hregistry⟩ := ih d' (r.publishAll j.event?.toList)
        rw [hfinish]
        refine ⟨j.event?.toList ++ done, ?_, by rw [hregistry, Registry.publishAll_append]⟩
        rw [List.append_assoc, ← hbacklog]
        unfold backlog
        rw [hjobs]
        cases hevent : j.event? <;> simp [hevent]

/-- a worker that goes on, and is let do enough jobs, does all of them -/
theorem jobs_workOff {jobs : Nat} (hpace : d.pace = .running) (hjobs : d.jobs.length ≤ jobs) (r : Registry) :
    (d.workOff jobs r).1.jobs = [] := by
  induction jobs generalizing d r with
  | zero => exact List.eq_nil_of_length_eq_zero (Nat.le_zero.1 hjobs)
  | succ jobs ih =>
    rw [workOff, if_neg (by rw [hpace]; decide)]
    rcases d.finish_take_cases r with ⟨hnil, hnone⟩ | ⟨j, d', hcons, hfinish, hgoes⟩
    · rw [hnone]
      exact hnil
    · rw [hfinish]
      refine ih (hgoes hpace) ?_ _
      rw [hcons, List.length_cons] at hjobs
      omega

/-- a worker that is let go on publishes all that is on its way -/
theorem release_registry (d : Dispatcher) (r : Registry) : (d.release r).2 = r.publishAll d.backlog := by
  have hlength : d.jobs.length ≤ d.queue.length + 1 := by
    unfold jobs
    cases d.holding <;> simp
  obtain ⟨done, hbacklog, hregistry⟩ :=
    workOff_publishes (d.queue.length + 1) { d with pace := .running } r
  have hnothing : (({ d with pace := .running } : Dispatcher).workOff (d.queue.length + 1) r).1.jobs = [] :=
    jobs_workOff (d := { d with pace := .running }) rfl hlength r
  have hall : d.backlog = done := by
    refine hbacklog.trans ?_
    rw [backlog, hnothing]
    exact List.append_nil done
  rw [hall]
  exact hregistry

/-- an event that finds a place is published when the worker is let go on, after those that were on their way -/
theorem release_dispatch (hroom : d.queue.length < d.pool) (e : Event) (r : Registry) :
    ((d.dispatch e r).2.1.release (d.dispatch e r).2.2).2 = ((d.release r).2.publish e).2 := by
  have haccepted : (d.accept e).2 = { d with queue := d.queue ++ [.publish e] } := by
    rcases d.accept_cases e with ⟨-, h⟩ | ⟨hfull, -⟩
    · rw [h]
    · omega
  have hbacklog : (d.accept e).2.backlog = d.backlog ++ [e] := by
    rw [haccepted]
    simp [backlog, jobs, Job.event?]
  -- a worker that is not held back has published `done` before it is let go on
  obtain ⟨done, hdone, hregistry⟩ := workOff_publishes ((d.accept e).2.queue.length + 1) (d.accept e).2 r
  have hdispatch : (d.dispatch e r).2 = (d.accept e).2.workOff ((d.accept e).2.queue.length + 1) r := rfl
  rw [hdispatch, release_registry, hregistry, ← Registry.publishAll_append, ← hdone, hbacklog,
    Registry.publishAll_append, release_registry]
  rfl

end Dispatcher

/-! ## Who hears of it -/

namespace Subscriber

/-- it asked for interrupts, and for those of a vector -/
def Follows (v : Nat) (s : Subscriber) : Prop :=
  s.enableMask &&& EventKind.interrupt.bit ≠ 0 ∧ s.irqMask.toNat.testBit v = true

instance (v : Nat) (s : Subscriber) : Decidable (s.Follows v) := inferInstanceAs (Decidable (_ ∧ _))

/-- the subscriber after the interrupt of a vector: the event waits if there is room, and is counted if there is none -/
def heard (v : Nat) (e : Event) (s : Subscriber) : Subscriber :=
  { s with
    queue := if s.Follows v ∧ s.Fits then s.queue ++ [e] else s.queue
    dropped := if s.Follows v ∧ ¬ s.Fits then s.dropped + 1 else s.dropped }

theorem and_sourceOfVector_ne_zero_iff (mask : UInt32) {v : Nat} (hv : v < vectorCount) :
    mask &&& sourceOfVector v ≠ 0 ↔ mask.toNat.testBit v = true := by
  rw [and_ne_zero_iff]
  have hbit : ∀ i, (sourceOfVector v).toBitVec.getLsbD i = true ↔ i = v := by
    intro i
    change (BitVec.twoPow 32 v).getLsbD i = true ↔ _
    have hv : v < 32 := hv
    rw [BitVec.getLsbD_twoPow, Bool.and_eq_true, decide_eq_true_eq, decide_eq_true_eq]
    omega
  constructor
  · rintro ⟨i, hmask, hi⟩
    exact (hbit i).1 hi ▸ hmask
  · exact fun hmask => ⟨v, hmask, (hbit v).2 rfl⟩

theorem offered_interrupt {v : Nat} (hv : v < vectorCount) (s : Subscriber) :
    s.offered (Event.ofPayload (.interrupt (sourceOfVector v))).stampProduced =
      s.heard v (Event.ofPayload (.interrupt (sourceOfVector v))).stampProduced := by
  have hwants : s.wants (.interrupt (sourceOfVector v)) = true ↔ s.Follows v := by
    simp only [wants, Bool.and_eq_true, bne_iff_ne, Follows, ← and_sourceOfVector_ne_zero_iff s.irqMask hv]
    rfl
  have hfits : s.hasRoom = true ↔ s.Fits := decide_eq_true_iff
  rw [offered_eq, show (Event.ofPayload (.interrupt (sourceOfVector v))).stampProduced.payload =
    .interrupt (sourceOfVector v) from rfl]
  simp only [hwants, hfits, heard]

end Subscriber

namespace Device

variable {ε : Type} [TransferEngine ε] {d : Device ε}

/-- what a forwarded interrupt does to the registry when the worker is let go on: it is published after the events that
were on their way -/
theorem registry_release_simulate (hmode : d.config.mode = .simulator) {source s : UInt32}
    (hforwarded : (d.simulate source).1 = .ok (.forwarded s)) (hroom : d.dispatcher.queue.length < d.dispatcher.pool) :
    (d.simulate source).2.1.release.registry = (d.release.registry.publish (.ofPayload (.interrupt s))).2 := by
  obtain ⟨-, v, name, hv, hfit, -⟩ := (simulate_forwarded_iff hmode source s).1 hforwarded
  rw [simulate_of_lowestBit hmode hv hfit] at hforwarded ⊢
  rw [((interrupt_cases _ d).forwarded s hforwarded).2]
  exact Dispatcher.release_dispatch hroom _ d.registry

/-- the settings of a device never change -/
theorem config_run (d : Device ε) (commands : List Command) : (d.run commands).1.config = d.config := by
  induction commands using List.reverseRecOn with
  | nil => rfl
  | append_singleton commands c ih =>
    rw [run_snoc]
    have hcommand : (⟨(d.run commands).1, c⟩ : Moment ε).after.config = (d.run commands).1.config :=
      (Undisturbed.own_after _).config.trans (Moment.own_fixed _).config
    exact hcommand.trans ih

omit [TransferEngine ε] in
/-- nobody has opened a session of a device that was just built -/
theorem rostered_of_build {files : HostFiles} {config : Config} {engine : Option ε}
    (hbuild : build files config engine = .ok d) (tickets : TicketCounter) (completions : CompletionTable)
    (elapsed : Ticket → Duration) : Rostered {} (d.onHost tickets completions elapsed) := by
  obtain ⟨table, bank, scheduler, dispatcher, -, -, -, -, -, rfl⟩ := build_cases hbuild
  have henrolled : Registry.Enrolled config.eventDepth {} := ⟨List.nodup_nil, fun _ => ⟨nofun, nofun⟩, nofun⟩
  exact ⟨henrolled, rfl, rfl, rfl, rfl, rfl, nofun⟩

/-- what has become of the sessions `members` between `r` and `r'`: each of them has heard of the interrupt of a vector
once, and there is nobody else -/
structure Heard (members : List Nat) (v : Nat) (source : UInt32) (r r' : Registry) : Prop where
  each : ∀ n ∈ members, ∃ s, r.subscriber? n = some s ∧
    r'.subscriber? n = some (s.heard v { payload := .interrupt source, produced := true })
  nobodyElse : ∀ n, n ∉ members → r'.subscriber? n = none

omit [TransferEngine ε] in
/-- a publication to sessions that are open, and have one entry each, is heard once by each -/
theorem heard_publish {ρ : Roster} (h : Rostered ρ d) {v : Nat} (hv : v < vectorCount) :
    Heard ρ.members v (sourceOfVector v) d.release.registry
      (d.release.registry.publish (.ofPayload (.interrupt (sourceOfVector v)))).2 := by
  have hkeeps : Registry.Keeps d.config.eventDepth d.registry d.release.registry :=
    Dispatcher.keeps_release h.enrolled d.dispatcher
  have hpublish := hkeeps.enrolled.changes_publish (.ofPayload (.interrupt (sourceOfVector v)))
  have hmember : ∀ n, n ∈ ρ.members ↔ (d.release.registry.subscriber? n).isSome := by
    intro n
    rw [← h.entries, ← hkeeps.entries]
    exact hkeeps.enrolled.mem_entries n
  constructor
  · intro n hn
    obtain ⟨s, hs⟩ := Option.isSome_iff_exists.1 ((hmember n).1 hn)
    refine ⟨s, hs, ?_⟩
    rw [hpublish.subscriber, hs, Option.map_some, Subscriber.offered_interrupt hv]
    rfl
  · intro n hn
    have hnone : d.release.registry.subscriber? n = none := Option.not_isSome_iff_eq_none.1 (mt (hmember n).2 hn)
    rw [hpublish.subscriber, hnone, Option.map_none]

/-- **A simulated interrupt acts through its lowest source bit only.** For every simulator that was built, with any base
and any engine, after every run of commands, and for every source:
- it is refused as an invalid argument, and nothing changes, if the source is empty, if the number of its lowest bit is
past 32 bits, or if that vector is disabled; otherwise it is the interrupt of that number, which leads back to the
vector, and a source that is told is the bit alone;
- two sources with the same lowest bit do the same;
- a source that is told and finds a place in the dispatcher's pool is published once the worker is let go on, after
what was on its way before; with no more openings than ids, the sessions that are open then, asked for interrupts and
for this bit, and have room, receive the event once, with the bit alone as its source, and no other session does. -/
theorem simulated_through_lowestBit {files : HostFiles} {config : Config} {engine : Option ε}
    (hbuild : build files config engine = .ok d) (hmode : config.mode = .simulator) (tickets : TicketCounter)
    (completions : CompletionTable) (elapsed : Ticket → Duration) (commands : List Command) :
    let e := ((d.onHost tickets completions elapsed).run commands).1
    (∀ source, ActsThrough source e) ∧
    (∀ source source' v, LowestBit source v → LowestBit source' v → e.simulate source = e.simulate source') ∧
    ∀ source s, (e.simulate source).1 = .ok (.forwarded s) → e.dispatcher.queue.length < e.dispatcher.pool →
      let told := (e.simulate source).2.1.release
      told.registry = (e.release.registry.publish (.ofPayload (.interrupt (source &&& -source)))).2 ∧
      ∀ v, LowestBit source v → commands.count .openSession ≤ 2 ^ 64 →
        Heard (Roster.of commands).members v (source &&& -source) e.release.registry told.registry := by
  intro e
  have hconfig : d.config = config := by
    obtain ⟨table, bank, scheduler, dispatcher, -, -, -, -, -, rfl⟩ := build_cases hbuild
    rfl
  have hsimulator : e.config.mode = .simulator := by
    rw [show e.config = d.config from config_run _ commands, hconfig, hmode]
  refine ⟨actsThrough_lowestBit hsimulator, ?_, ?_⟩
  · intro source source' v hv hv'
    have hnumber : e.router.irqForSource source = e.router.irqForSource source' := by
      simp only [InterruptRouter.irqForSource, (LowestBit.iff_vectorOfSource? _ v).1 hv,
        (LowestBit.iff_vectorOfSource? _ v).1 hv']
    rw [simulate_eq hsimulator, simulate_eq hsimulator, hnumber]
  · intro source s hforwarded hroom told
    have hsource : s = source &&& -source := ((simulate_forwarded_iff hsimulator source s).1 hforwarded).1
    have htold : told.registry = (e.release.registry.publish (.ofPayload (.interrupt (source &&& -source)))).2 :=
      hsource ▸ registry_release_simulate hsimulator hforwarded hroom
    refine ⟨htold, ?_⟩
    intro v hv hopens
    have hrostered := (rostered_run (rostered_of_build hbuild tickets completions elapsed) commands hopens).1
    rw [htold, hv.and_neg]
    exact heard_publish hrostered hv.lt_vectorCount

/-- two sessions follow interrupts, and the second does not follow vector 8; a third one closes; then the worker is held
back behind the interrupt of vector 10, and that of vector 11 waits -/
def heldBack : List Command :=
  [.openSession, .openSession, .openSession, .session 0 (.setEventMask 1), .session 0 (.setForwardingMask 0xF00),
   .session 1 (.setEventMask 1), .session 1 (.setForwardingMask 0xC00), .session 2 .close, .hold, .simulate 0x400,
   .simulate 0x800]

/-- vectors 8, 10 and 12 are raised as one source, which is that of vector 8: it comes behind the one that waits, and
only the first session receives it -/
theorem simulated_through_lowestBit_heldBack :
    let e := ((simulatorBoard.onHost {} {} fun _ => ⟨0⟩).run heldBack).1
    let told := (e.simulate 0x1500).2.1.release
    e.dispatcher.queue.length < e.dispatcher.pool ∧ heldBack.count .openSession ≤ 2 ^ 64 ∧
      (e.simulate 0x1500).1 = .ok (.forwarded 0x100) ∧ e.simulate 0x1500 = e.simulate 0x100 ∧
      e.simulate 0 = (.error (.invalidArgument .emptySource), e, {}) ∧
      e.simulate 0x200 = (.error (.invalidArgument (.vectorDisabled 9)), e, {}) ∧
      Heard [0, 1] 8 0x100 e.release.registry told.registry ∧
      (told.registry.waiting 0).map Event.payload = [.interrupt 0x400, .interrupt 0x800, .interrupt 0x100] ∧
      (told.registry.waiting 1).map Event.payload = [.interrupt 0x400, .interrupt 0x800] := by
  intro e told
  obtain ⟨hacts, hsame, htold⟩ :=
    simulated_through_lowestBit build_simulatorBoard rfl {} {} (fun _ => ⟨0⟩) heldBack
  have hroom : e.dispatcher.queue.length < e.dispatcher.pool := by decide +kernel
  have hopens : heldBack.count .openSession ≤ 2 ^ 64 := by decide
  have hlowest : LowestBit 0x1500 8 := by decide
  have hforwarded : (e.simulate 0x1500).1 = .ok (.forwarded 0x100) :=
    ((hacts 0x1500).forwarded_iff 0x100).2 ⟨by decide, 8, "err", hlowest, by decide +kernel, by decide +kernel⟩
  refine ⟨hroom, hopens, hforwarded, hsame _ _ 8 hlowest (by decide), (hacts 0).zero rfl, ?_, ?_, ?_, ?_⟩
  · exact (hacts 0x200).disabled 9 (by decide) (by decide +kernel) (by decide +kernel)
  · exact (htold _ _ hforwarded hroom).2 8 hlowest hopens
  · decide +kernel
  · decide +kernel

end Device
end BoardDriver
