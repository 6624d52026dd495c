/-
Draining a controller: reporting busy channels until there are none.

The order is up to whoever reports. With an engine that raises no interrupt from inside a start, each report retires one
request and hands the channel to the next one waiting, so the load goes down by one whatever is chosen. Channels that
were busy at the start never take part: the pool has to have a channel of its own.

- `TransferEngine.Quiet`: engines like that, `quiet_bank` among them; `Client.quiet_run`: no run makes them noisy;
- `Pooled`: which channels take part and which interrupts they have; `Pooled.of_retires`: retirements keep this;
- `DmaUnit.Drains`: reports of busy channels, in any order; `Drains.keeps`, `Drains.load`: what they come to;
- `Client.no_stranded_request`: no choice gets stuck, and all choices end after as many reports as there were requests.
-/
import BoardDriver.Proofs.Binding
import BoardDriver.Proofs.Load
import BoardDriver.Proofs.SynchronousEngine
import BoardDriver.Register.RegisterFile

namespace BoardDriver

/-! ## Quiet engines -/

namespace TransferEngine

variable {ε : Type} [TransferEngine ε]

/-- whatever it has been told before, the engine raises no interrupt from inside a start -/
def Quiet (e : ε) : Prop :=
  ∀ (earlier : List Start) (start : Start), TransferEngine.raises (after e (earlier ++ [start])) start = []

variable {e : ε}

theorem Quiet.raises (h : Quiet e) (start : Start) :
    TransferEngine.raises (TransferEngine.start start e).state start = [] :=
  h [] start

/-- it stays so -/
theorem Quiet.start (h : Quiet e) (start : Start) : Quiet (TransferEngine.start start e).state :=
  fun earlier next => h (start :: earlier) next

/-- the engine of the board is quiet -/
theorem quiet_bank {β : Type} [RegisterBackend β] (b : RegisterBank β) : Quiet b :=
  fun _ _ => rfl

end TransferEngine

namespace DmaUnit

variable {ε : Type} [TransferEngine ε] {u v : DmaUnit ε}

/-- nothing is nested in what follows, and the engine is still quiet -/
structure Calm (after : DmaUnit ε × EngineActivity (Except Error Retired)) : Prop where
  answers : after.2.answers = []
  quiet : TransferEngine.Quiet after.1.engine

/-- the start is all that happens -/
theorem calm_kickOff (hq : TransferEngine.Quiet u.engine)
    (answer : UInt32 → DmaUnit ε → Result ε (Except Error Retired)) (start : Start) :
    Calm (kickOff launch answer start u) := by
  have hraised : (launch start u).raised = [] := hq.raises start
  refine ⟨?_, ?_⟩
  · simp only [kickOff, hraised, answerAll, EngineActivity.append_empty, EngineActivity.answers_started]
  · simp only [kickOff, hraised, answerAll]
    exact hq.start start

theorem calm_completeWith {kick : Start → DmaUnit ε → DmaUnit ε × EngineActivity (Except Error Retired)}
    (hkick : ∀ start v, TransferEngine.Quiet v.engine → Calm (kick start v)) (hq : TransferEngine.Quiet u.engine)
    (irq : UInt32) : Calm (completeWith kick irq u).2 := by
  cases hd : u.toTransferLedger.retire irq with
  | error e =>
    simp only [completeWith, hd]
    exact ⟨rfl, hq⟩
  | ok p =>
    obtain ⟨done, l⟩ := p
    simp only [completeWith, hd]
    cases done.next with
    | none => exact ⟨rfl, hq⟩
    | some start => exact hkick start _ hq

theorem calm_complete (hq : TransferEngine.Quiet u.engine) (irq : UInt32) : Calm (u.complete irq).2 := by
  simp only [complete]
  cases u.scheduler.pending.length with
  | zero => exact calm_completeWith (fun _ _ hv => ⟨rfl, hv⟩) hq irq
  | succ depth => exact calm_completeWith (fun start _ hv => calm_kickOff hv _ start) hq irq

theorem quiet_submit (hq : TransferEngine.Quiet u.engine) (r : Request) :
    TransferEngine.Quiet (u.submit r).1.engine := by
  cases hs : u.toTransferLedger.submit r with
  | mk start? l =>
    simp only [submit, hs]
    cases start? with
    | none => exact hq
    | some start => exact (calm_kickOff (u := { u with toTransferLedger := l }) hq complete start).quiet

/-- a completion that succeeds is one retirement -/
theorem load_complete (hq : TransferEngine.Quiet u.engine) {irq : UInt32} {x : Retired}
    (hx : (u.complete irq).1 = .ok x) : (u.complete irq).2.1.scheduler.load + 1 = u.scheduler.load := by
  have hload := (complete_settles _ irq u (Nat.le_refl _)).load
  rw [(calm_complete hq irq).answers, hx] at hload
  exact hload

/-- the interrupt of a busy channel retires its request -/
theorem complete_of_running (hu : u.scheduler.Unshared) {channel : Nat} {irq : UInt32} {r : Request}
    (hr : u.scheduler.running? channel = some r) (hirq : u.scheduler.bindings[channel]? = some (some irq)) :
    (u.complete irq).1 = .ok (r.retiredOn channel) := by
  rw [complete_answer, TransferLedger.retire_report_iff]
  exact ⟨channel, r, (hu.channelOf?_eq_some_iff irq channel).2 hirq, hr, rfl⟩

end DmaUnit

theorem Client.quiet_step {ε : Type} [TransferEngine ε] {c : Client ε} (hq : TransferEngine.Quiet c.engine)
    (op : Op) : TransferEngine.Quiet (c.step op).engine := by
  cases op with
  | submit r =>
    simp only [step]
    split
    · exact DmaUnit.quiet_submit hq r
    · exact hq
  | complete irq => exact (DmaUnit.calm_complete hq irq).quiet
  | _ => exact hq

/-- a quiet engine is quiet in every state that a client brings it to -/
theorem Client.quiet_run {ε : Type} [TransferEngine ε] {c : Client ε} (hq : TransferEngine.Quiet c.engine)
    (ops : List Op) : TransferEngine.Quiet (c.run ops).engine := by
  induction ops generalizing c with
  | nil => exact hq
  | cons op ops ih => exact ih (quiet_step hq op)

/-! ## The channels of the pool and their interrupts -/

/-- what retirements preserve, one by one, they preserve in sequence -/
theorem TransferLedger.Retires.keeps {P : TransferLedger → Prop} {l m : TransferLedger} {ds : List Completed}
    (hP : ∀ {irq done} {l m : TransferLedger}, l.retire irq = .ok (done, m) → P l → P m) (h : l.Retires ds m)
    (hl : P l) : P m := by
  induction h with
  | nil => exact hl
  | cons hd _ ih => exact ih (hP hd hl)

/-- the channels of `pool`, and no others, take part, and every channel has an interrupt of its own -/
structure Scheduler.Pooled (pool : BitVec 32) (s : Scheduler) : Prop where
  sound : s.Sound
  unshared : s.Unshared
  bound : ∀ c < s.capacity, ∃ irq, s.bindings[c]? = some (some irq)
  member : ∀ c, pool.getLsbD c = true ↔ c < s.capacity ∧ ¬ s.IsOutside c

namespace Scheduler.Pooled

variable {pool : BitVec 32} {s t : Scheduler}

theorem complete (p : Pooled pool s) {irq : UInt32} {done : Completed} (h : s.complete irq = .ok (done, t)) :
    Pooled pool t where
  sound := p.sound.complete h
  unshared := p.unshared.of_bindings (bindings_complete h)
  bound := by
    rw [capacity_complete h, bindings_complete h]
    exact p.bound
  member c := by
    rw [capacity_complete h, isOutside_complete p.sound h]
    exact p.member c

theorem of_retires (l m : TransferLedger) {ds : List Completed} (p : Pooled pool l.scheduler) (h : l.Retires ds m) :
    Pooled pool m.scheduler :=
  h.keeps (P := fun l => Pooled pool l.scheduler) (fun hd p => p.complete (TransferLedger.retire_cases hd).1) p

/-- while there is any load, some channel can be reported -/
theorem exists_busy (p : Pooled pool s) (hpool : pool ≠ 0#32) (hload : s.load ≠ 0) :
    ∃ channel irq r, s.running? channel = some r ∧ s.bindings[channel]? = some (some irq) := by
  cases hlowest : Bits.lowest? pool with
  | none => exact absurd ((Bits.lowest?_eq_none_iff _).1 hlowest) hpool
  | some c =>
    obtain ⟨hc, hin⟩ := (p.member c).1 ((Bits.lowest?_eq_some_iff _ _).1 hlowest).1
    obtain ⟨channel, r, hr⟩ := p.sound.exists_running? hc hin hload
    obtain ⟨irq, hirq⟩ := p.bound channel (lt_capacity_of_running? hr)
    exact ⟨channel, irq, r, hr, hirq⟩

/-- when all is done, the whole pool is idle -/
theorem idle_eq (p : Pooled pool s) (hload : s.load = 0) : s.idle = pool := by
  apply BitVec.eq_of_getLsbD_eq
  intro c _
  rw [Bool.eq_iff_iff, p.sound.getLsbD_idle hload c, p.member c]

end Scheduler.Pooled

/-! ## Reports of busy channels -/

namespace DmaUnit

variable {ε : Type} [TransferEngine ε] {u v : DmaUnit ε} {pool : BitVec 32} {replies : List (Except Error Retired)}

/-- completions, one after another, each for the interrupt of some channel that is busy at that moment -/
inductive Drains : DmaUnit ε → List (Except Error Retired) → DmaUnit ε → Prop
  | stop (u : DmaUnit ε) : Drains u [] u
  | report {u v : DmaUnit ε} {channel : Nat} {irq : UInt32} {r : Request} {replies : List (Except Error Retired)} :
      u.scheduler.running? channel = some r → u.scheduler.bindings[channel]? = some (some irq) →
      Drains (u.complete irq).2.1 replies v → Drains u ((u.complete irq).1 :: replies) v

/-- what every report keeps -/
structure Drainable (pool : BitVec 32) (u : DmaUnit ε) : Prop where
  pooled : u.scheduler.Pooled pool
  quiet : TransferEngine.Quiet u.engine

theorem Drainable.complete (d : Drainable pool u) (irq : UInt32) : Drainable pool (u.complete irq).2.1 := by
  obtain ⟨ds, hretires, -, -⟩ := complete_settles _ irq u (Nat.le_refl _)
  exact ⟨Scheduler.Pooled.of_retires _ _ d.pooled hretires, (calm_complete d.quiet irq).quiet⟩

/-- a report of a busy channel retires its request, and that is all -/
theorem Drainable.report (d : Drainable pool u) {channel : Nat} {irq : UInt32} {r : Request}
    (hr : u.scheduler.running? channel = some r) (hirq : u.scheduler.bindings[channel]? = some (some irq)) :
    (u.complete irq).1 = .ok (r.retiredOn channel) ∧ (u.complete irq).2.1.scheduler.load + 1 = u.scheduler.load := by
  have hx := complete_of_running d.pooled.unshared hr hirq
  exact ⟨hx, load_complete d.quiet hx⟩

theorem Drains.keeps (h : Drains u replies v) (d : Drainable pool u) : Drainable pool v := by
  induction h with
  | stop u => exact d
  | report _ _ _ ih => exact ih (d.complete _)

/-- every report succeeds -/
theorem Drains.replies_ok (h : Drains u replies v) (d : Drainable pool u) : ∀ reply ∈ replies, ∃ x, reply = .ok x := by
  induction h with
  | stop u => exact fun _ hreply => absurd hreply List.not_mem_nil
  | report hr hirq _ ih =>
    intro reply hreply
    rcases List.mem_cons.1 hreply with rfl | hreply
    · exact ⟨_, (d.report hr hirq).1⟩
    · exact ih (d.complete _) reply hreply

/-- and takes one request away -/
theorem Drains.load (h : Drains u replies v) (d : Drainable pool u) :
    v.scheduler.load + replies.length = u.scheduler.load := by
  induction h with
  | stop u => rfl
  | @report u v channel irq r replies hr hirq _ ih =>
    calc v.scheduler.load + (replies.length + 1)
        = v.scheduler.load + replies.length + 1 := rfl
      _ = (u.complete irq).2.1.scheduler.load + 1 := by rw [ih (d.complete irq)]
      _ = u.scheduler.load := (d.report hr hirq).2

end DmaUnit

/-! ## Controllers in the hands of a client -/

namespace Client

/-- the channels that take part after these operations: those idle at the start, and all of them after a reset -/
def pool (channels : Nat) (idle : BitVec 32) (ops : List Op) : BitVec 32 :=
  if Op.reset ∈ ops then Bits.mask (min channels 32) else idle &&& Bits.mask (min channels 32)

theorem getLsbD_pool (channels : Nat) (idle : BitVec 32) (ops : List Op) (c : Nat) :
    (pool channels idle ops).getLsbD c = true ↔
      c < min channels 32 ∧ (idle.getLsbD c = true ∨ Op.reset ∈ ops) := by
  have hmask : (Bits.mask (min channels 32)).getLsbD c = true ↔ c < min channels 32 := by
    rw [Bits.getLsbD_mask, decide_eq_true_iff]
    omega
  rw [pool]
  split
  · rename_i hreset
    rw [hmask]
    exact ⟨fun hc => ⟨hc, .inr hreset⟩, And.left⟩
  · rename_i hreset
    rw [BitVec.getLsbD_and, Bool.and_eq_true, hmask]
    exact ⟨fun h => ⟨h.2, .inl h.1⟩, fun h => ⟨h.2.resolve_right hreset, h.1⟩⟩

theorem pool_ne_zero {channels : Nat} {idle : BitVec 32} {ops : List Op}
    (h : idle &&& Bits.mask (min channels 32) ≠ 0#32 ∨ 0 < channels ∧ Op.reset ∈ ops) :
    pool channels idle ops ≠ 0#32 := by
  have hsome : ∃ c, (pool channels idle ops).getLsbD c = true := by
    rcases h with hidle | ⟨hpos, hreset⟩
    · cases hlowest : Bits.lowest? (idle &&& Bits.mask (min channels 32)) with
      | none => exact absurd ((Bits.lowest?_eq_none_iff _).1 hlowest) hidle
      | some c =>
        have hc := ((Bits.lowest?_eq_some_iff _ _).1 hlowest).1
        rw [BitVec.getLsbD_and, Bool.and_eq_true, Bits.getLsbD_mask, decide_eq_true_iff] at hc
        exact ⟨c, (getLsbD_pool channels idle ops c).2 ⟨hc.2.1, .inl hc.1⟩⟩
    · exact ⟨0, (getLsbD_pool channels idle ops 0).2 ⟨by omega, .inr hreset⟩⟩
  intro hzero
  obtain ⟨c, hc⟩ := hsome
  rw [hzero, BitVec.getLsbD_zero] at hc
  cases hc

variable {ε : Type} [TransferEngine ε]

theorem pooled_run (channels : Nat) (idle : BitVec 32) (engine : ε) (tickets : TicketCounter)
    (completions : CompletionTable) (ops : List Op)
    (hbound : ∀ c < ((fresh channels idle engine tickets completions).run ops).scheduler.capacity,
      ∃ irq, ((fresh channels idle engine tickets completions).run ops).scheduler.bindings[c]? = some (some irq)) :
    ((fresh channels idle engine tickets completions).run ops).scheduler.Pooled (pool channels idle ops) := by
  obtain ⟨hsound, hcap, hout⟩ := inStep_run channels idle engine tickets completions ops
  have hfresh : (Scheduler.fresh channels idle).capacity = min channels 32 := by
    simp [Scheduler.fresh, Scheduler.capacity, maxDmaChannels]
  have hmin : ((fresh channels idle engine tickets completions).run ops).scheduler.capacity = min channels 32 :=
    hcap.trans hfresh
  refine ⟨hsound, unshared_run channels idle engine tickets completions ops, hbound, fun c => ?_⟩
  have houtside : ((fresh channels idle engine tickets completions).run ops).scheduler.IsOutside c ↔
      (c < min channels 32 ∧ idle.getLsbD c = false) ∧ Op.reset ∉ ops := by
    refine (hout c).trans (and_congr (Scheduler.isOutside_fresh_iff channels idle c) ?_)
    exact (dropped_run_eq_nil_iff _ ops).trans (and_iff_right rfl)
  rw [getLsbD_pool, hmin, houtside]
  refine and_congr_right fun hc => ?_
  cases hi : idle.getLsbD c with
  | true => simp
  | false => simp [hc]

/-- **No request is stranded.** Take a client of a new unit with a quiet engine, after any run that leaves every channel
bound to an interrupt, some channel having been idle at the start, or there being channels and a reset since. Report
busy channels one after another, as long as you like and whichever you like:
- while a request is on a channel or waits, there is a busy channel to report;
- the next report, of whichever channel, succeeds and leaves one request less;
- so did every report before, and there are as many of them as there are requests less;
- after as many reports as there were requests, nothing is on a channel, nothing waits, and the pool is idle. -/
theorem no_stranded_request (channels : Nat) (idle : BitVec 32) (engine : ε) (tickets : TicketCounter)
    (completions : CompletionTable) (ops : List Op) (hquiet : TransferEngine.Quiet engine)
    (hpool : idle &&& Bits.mask (min channels 32) ≠ 0#32 ∨ 0 < channels ∧ Op.reset ∈ ops)
    (hbound : ∀ c < ((fresh channels idle engine tickets completions).run ops).scheduler.capacity,
      ∃ irq, ((fresh channels idle engine tickets completions).run ops).scheduler.bindings[c]? = some (some irq)) :
    let u := ((fresh channels idle engine tickets completions).run ops).toDmaUnit
    ∀ replies v, DmaUnit.Drains u replies v →
      (v.scheduler.inFlightCount + v.scheduler.pending.length ≠ 0 →
        ∃ channel irq r, v.scheduler.running? channel = some r ∧ v.scheduler.bindings[channel]? = some (some irq)) ∧
      (∀ channel irq r, v.scheduler.running? channel = some r → v.scheduler.bindings[channel]? = some (some irq) →
        (v.complete irq).1 = .ok (r.retiredOn channel) ∧
        (v.complete irq).2.1.scheduler.load + 1 = v.scheduler.load) ∧
      (∀ reply ∈ replies, ∃ x, reply = .ok x) ∧
      v.scheduler.load + replies.length = u.scheduler.load ∧
      (replies.length = u.scheduler.inFlightCount + u.scheduler.pending.length →
        v.scheduler.inFlightCount = 0 ∧ v.scheduler.pending = [] ∧ v.scheduler.idle = pool channels idle ops) := by
  intro u replies v hdrains
  have hstart : DmaUnit.Drainable (pool channels idle ops) u :=
    ⟨pooled_run channels idle engine tickets completions ops hbound, quiet_run hquiet ops⟩
  have hend : DmaUnit.Drainable (pool channels idle ops) v := hdrains.keeps hstart
  have hload : v.scheduler.load + replies.length = u.scheduler.load := hdrains.load hstart
  refine ⟨?busy, ?next, hdrains.replies_ok hstart, hload, ?drained⟩
  case busy => exact hend.pooled.exists_busy (pool_ne_zero hpool)
  case next =>
    intro channel irq r hr hirq
    exact hend.report hr hirq
  case drained =>
    intro hlength
    have hzero : v.scheduler.inFlightCount + v.scheduler.pending.length = 0 := by
      rw [hlength] at hload
      exact Nat.add_eq_right.1 hload
    obtain ⟨hrest, hwait⟩ := Nat.add_eq_zero_iff.1 hzero
    exact ⟨hrest, List.length_eq_zero_iff.1 hwait, hend.pooled.idle_eq hzero⟩

/-- four requests for three channels, the first of which is busy at the start; the channels are bound last -/
def boundLate : List Op :=
  (List.range 4).map (fun i => .create (watchedRequest i).descriptor ⟨7⟩ true) ++
    (List.range 4).map (fun i => .submit (watchedRequest i)) ++ [.bind 32]

def simulatedBank : RegisterBank RegisterFile :=
  RegisterBank.ofBackend 0 (some (RegisterFile.fresh 0 512))

/-- channel 2 is reported twice before channel 1 is, and then once more -/
theorem no_stranded_request_boundLate :
    let u := ((fresh 3 6#32 simulatedBank {} {}).run boundLate).toDmaUnit
    TransferEngine.Quiet simulatedBank ∧ 6#32 &&& Bits.mask (min 3 32) ≠ 0#32 ∧
      (∀ c < u.scheduler.capacity, ∃ irq, u.scheduler.bindings[c]? = some (some irq)) ∧
      u.scheduler.inFlightCount + u.scheduler.pending.length = 4 ∧
      ∃ replies v, DmaUnit.Drains u replies v ∧ replies.length = 4 ∧ v.scheduler.inFlightCount = 0 ∧
        v.scheduler.pending = [] ∧ v.scheduler.idle = 6#32 := by
  intro u
  have hquiet : TransferEngine.Quiet simulatedBank := TransferEngine.quiet_bank simulatedBank
  have hpool : 6#32 &&& Bits.mask (min 3 32) ≠ 0#32 := by decide
  have hbound : ∀ c < u.scheduler.capacity, ∃ irq, u.scheduler.bindings[c]? = some (some irq) := by
    have hall : ∀ c < u.scheduler.capacity, u.scheduler.bindings[c]? = some (some (32 + UInt32.ofNat c)) := by decide
    exact fun c hc => ⟨_, hall c hc⟩
  have hload : u.scheduler.inFlightCount + u.scheduler.pending.length = 4 := by decide
  let u₁ := (u.complete 34).2.1
  let u₂ := (u₁.complete 34).2.1
  let u₃ := (u₂.complete 33).2.1
  have first : u.scheduler.running? 2 = some (watchedRequest 1) ∧ u.scheduler.bindings[2]? = some (some 34) := by decide
  have second : u₁.scheduler.running? 2 = some (watchedRequest 2) ∧ u₁.scheduler.bindings[2]? = some (some 34) := by
    decide
  have third : u₂.scheduler.running? 1 = some (watchedRequest 0) ∧ u₂.scheduler.bindings[1]? = some (some 33) := by
    decide
  have fourth : u₃.scheduler.running? 2 = some (watchedRequest 3) ∧ u₃.scheduler.bindings[2]? = some (some 34) := by
    decide
  have hlast : DmaUnit.Drains u₃ [(u₃.complete 34).1] (u₃.complete 34).2.1 := .report fourth.1 fourth.2 (.stop _)
  have hlater : DmaUnit.Drains u₁ [(u₁.complete 34).1, (u₂.complete 33).1, (u₃.complete 34).1] (u₃.complete 34).2.1 :=
    .report second.1 second.2 (.report third.1 third.2 hlast)
  have hdrains := DmaUnit.Drains.report first.1 first.2 hlater
  obtain ⟨-, -, -, -, hdrained⟩ := no_stranded_request 3 6#32 simulatedBank {} {} boundLate hquiet (.inl hpool) hbound
    _ _ hdrains
  obtain ⟨hrest, hwait, hidle⟩ := hdrained hload.symm
  exact ⟨hquiet, hpool, hbound, hload, _, _, hdrains, rfl, hrest, hwait, hidle⟩

end Client
end BoardDriver
