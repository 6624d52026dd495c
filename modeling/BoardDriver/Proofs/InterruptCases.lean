/-
All that an interrupt can come to.

An interrupt is a vector of the board or it is not. If it is, the vector is disabled, stands for a source, or reports
that a channel is done; and then a request is on that channel or not. Each case has one answer and leaves one thing
behind, on every device and for every number.

- `interrupt_eq`: the bound on the depth of nested answers is never reached, so it can be left out;
- `InterruptRouter.route_eq_ok_iff`: where a number leads;
- `TransferLedger.Freed`: the books when a request has been taken off its channel;
- `Device.Retirement`: the device when the request has been retired, counted and told;
- `Device.interrupt_cases`: the answers, the conditions for each, and what is left behind.
-/
import BoardDriver.Proofs.DeviceHistory
import BoardDriver.Proofs.EngineRecord

namespace BoardDriver

/-! ## Answers that agree -/

section

variable {σ α : Type} {P : σ → Prop} {answer answer' : UInt32 → σ → α × σ × EngineActivity α}

/-- two ways of answering interrupts that agree on all states that come up do the same -/
theorem answerAll_congr (hsame : ∀ irq s, P s → answer irq s = answer' irq s)
    (hkeep : ∀ irq s, P s → P (answer irq s).2.1) (irqs : List UInt32) {s : σ} (hs : P s) :
    answerAll answer irqs s = answerAll answer' irqs s := by
  induction irqs generalizing s with
  | nil => rfl
  | cons irq irqs ih =>
    have hrest := ih (hkeep irq s hs)
    simp only [answerAll]
    rw [← hsame irq s hs, hrest]

theorem kickOff_congr {launch : Start → σ → Launched σ} (hlaunch : ∀ start s, P s → P (launch start s).state)
    (hsame : ∀ irq s, P s → answer irq s = answer' irq s) (hkeep : ∀ irq s, P s → P (answer irq s).2.1)
    (start : Start) {s : σ} (hs : P s) : kickOff launch answer start s = kickOff launch answer' start s := by
  simp only [kickOff]
  rw [answerAll_congr hsame hkeep _ (hlaunch start s hs)]

/-- an engine that is answered nothing has raised nothing -/
theorem eq_nil_of_answers_answerAll {irqs : List UInt32} {s : σ} (h : (answerAll answer irqs s).2.answers = []) :
    irqs = [] := by
  cases irqs with
  | nil => rfl
  | cons irq irqs => simp [answerAll] at h

/-- interrupts are answered one after another -/
theorem answerAll_state (answer : UInt32 → σ → α × σ × EngineActivity α) (irqs : List UInt32) (s : σ) :
    (answerAll answer irqs s).1 = irqs.foldl (fun s irq => (answer irq s).2.1) s := by
  induction irqs generalizing s with
  | nil => rfl
  | cons irq irqs ih => exact ih (answer irq s).2.1

end

/-! ## Vectors -/

namespace InterruptRouter

variable {r : InterruptRouter} {v v' : Nat} {irq : UInt32}

theorem Arrives.unique (h : r.Arrives v irq) (h' : r.Arrives v' irq) : v = v' :=
  Nat.add_left_cancel (h.2.symm.trans h'.2)

theorem route_of_not_arrives (h : ∀ v, ¬ r.Arrives v irq) :
    r.route irq = .error (.invalidArgument (.notVector irq)) := by
  have hout : irq < r.base ∨ vectorCount ≤ irq.toNat - r.base.toNat := by
    by_contra hin
    rw [not_or, UInt32.lt_iff_toNat_lt] at hin
    exact h (irq.toNat - r.base.toNat) ⟨by omega, by omega⟩
  simp only [route, if_pos hout]

/-- a number leads somewhere if it is that of an enabled vector -/
theorem route_eq_ok_iff (r : InterruptRouter) (irq : UInt32) (route : Route) :
    r.route irq = .ok route ↔ ∃ v, r.Arrives v irq ∧
      ((∃ c, r.mode.vector v = .dmaDone c ∧ route = .dma c) ∨
        ∃ name, r.mode.vector v = .source name ∧ route = .source v name) := by
  by_cases h : ∃ v, r.Arrives v irq
  · obtain ⟨v, hv⟩ := h
    rw [route_of_arrives hv]
    constructor
    · intro hroute
      refine ⟨v, hv, ?_⟩
      cases hvector : r.mode.vector v with
      | dmaDone c =>
        rw [hvector] at hroute
        exact .inl ⟨c, rfl, (Except.ok.inj hroute).symm⟩
      | source name =>
        rw [hvector] at hroute
        exact .inr ⟨name, rfl, (Except.ok.inj hroute).symm⟩
      | disabled =>
        rw [hvector] at hroute
        cases hroute
    · rintro ⟨v', hv', ⟨c, hvector, rfl⟩ | ⟨name, hvector, rfl⟩⟩
      · rw [hv.unique hv', hvector]
      · rw [hv.unique hv', hvector]
  · have hnone : ∀ v, ¬ r.Arrives v irq := fun v hv => h ⟨v, hv⟩
    rw [route_of_not_arrives hnone]
    exact iff_of_false nofun fun ⟨v, hv, _⟩ => hnone v hv

theorem route_eq_dma_iff (r : InterruptRouter) (irq : UInt32) (c : Nat) :
    r.route irq = .ok (.dma c) ↔ ∃ v, r.Arrives v irq ∧ r.mode.vector v = .dmaDone c := by
  rw [route_eq_ok_iff]
  refine exists_congr fun v => and_congr_right fun _ => ?_
  constructor
  · rintro (⟨c', hvector, heq⟩ | ⟨name, -, heq⟩)
    · cases heq
      exact hvector
    · cases heq
  · exact fun hvector => .inl ⟨c, hvector, rfl⟩

theorem route_eq_source_iff (r : InterruptRouter) (irq : UInt32) (v : Nat) (name : String) :
    r.route irq = .ok (.source v name) ↔ r.Arrives v irq ∧ r.mode.vector v = .source name := by
  rw [route_eq_ok_iff]
  constructor
  · rintro ⟨v', hv', ⟨c, -, heq⟩ | ⟨name', hvector, heq⟩⟩
    · cases heq
    · cases heq
      exact ⟨hv', hvector⟩
  · exact fun ⟨hv, hvector⟩ => ⟨v, hv, .inr ⟨name, hvector, rfl⟩⟩

theorem route_eq_error_iff (r : InterruptRouter) (irq : UInt32) :
    (∃ e, r.route irq = .error e) ↔ ¬ ∃ v, r.Arrives v irq ∧ (r.mode.vector v).isEnabled := by
  have hok : (∃ route, r.route irq = .ok route) ↔ ∃ v, r.Arrives v irq ∧ (r.mode.vector v).isEnabled := by
    simp only [route_eq_ok_iff]
    rw [exists_comm]
    refine exists_congr fun v => ?_
    cases r.mode.vector v <;> simp [InterruptVector.isEnabled]
  rw [← hok]
  cases r.route irq <;> simp

/-- and if it does not, the reason is that the argument is invalid -/
theorem invalidArgument_of_route {r : InterruptRouter} {irq : UInt32} {e : Error} (h : r.route irq = .error e) :
    ∃ reason, e = .invalidArgument reason := by
  simp only [route] at h
  split at h
  · exact ⟨_, (Except.error.inj h).symm⟩
  · split at h
    · cases h
    · cases h
    · exact ⟨_, (Except.error.inj h).symm⟩

end InterruptRouter

theorem toNat_sourceOfVector {v : Nat} (h : v < vectorCount) : (sourceOfVector v).toNat = 2 ^ v := by
  change (BitVec.twoPow 32 v).toNat = 2 ^ v
  rw [BitVec.toNat_twoPow]
  exact Nat.mod_eq_of_lt (Nat.pow_lt_pow_right (by decide) h)

/-! ## The books -/

namespace TransferLedger

/-- the books `m` are `l` when the request `r` has been taken off channel `ch`, and the head of the queue put there -/
structure Freed (l : TransferLedger) (ch : Nat) (r : Request) (m : TransferLedger) : Prop where
  slot : m.scheduler.running? ch = l.scheduler.pending.head?
  slots : ∀ c, c ≠ ch → m.scheduler.running? c = l.scheduler.running? c
  queue : m.scheduler.pending = l.scheduler.pending.tail
  /-- the channel becomes idle if nothing waits, and the others stay as they are -/
  idle : ∀ c, m.scheduler.idle.getLsbD c =
    (l.scheduler.idle.getLsbD c || decide (l.scheduler.pending = [] ∧ c = ch ∧ c < 32))
  bindings : m.scheduler.bindings = l.scheduler.bindings
  tickets : m.tickets = l.tickets
  handles : m.completions.entries.length = l.completions.entries.length
  /-- the handle of the request is complete, and the others are as they were -/
  signalled : ∀ h < l.completions.entries.length,
    (m.completions.isComplete h = true ↔ l.completions.isComplete h = true ∨ r.completion = some h)

/-- a retirement takes the request off the channel of the interrupt, and answers with the start of the head of the
queue on that channel -/
theorem retire_freed {irq : UInt32} {l m : TransferLedger} {done : Completed} (h : l.retire irq = .ok (done, m)) :
    l.scheduler.channelOf? irq = some done.channel ∧ l.scheduler.running? done.channel = some done.request ∧
      done.next = l.scheduler.pending.head?.map (fun q => q.startOn done.channel) ∧
      l.Freed done.channel done.request m := by
  obtain ⟨hcomplete, htickets, hcompletions⟩ := retire_cases h
  obtain ⟨hchannel, hrunning, -⟩ := Scheduler.complete_cases hcomplete
  have hslots := Scheduler.running?_complete hcomplete
  refine ⟨hchannel, hrunning, Scheduler.next_complete hcomplete, {
    slot := ?slot
    slots := ?slots
    queue := (Scheduler.pending_of_complete hcomplete).1
    idle := ?idle
    bindings := Scheduler.bindings_complete hcomplete
    tickets := htickets
    handles := ?handles
    signalled := ?signalled }⟩
  case slot => rw [hslots, if_pos rfl]
  case slots =>
    intro c hc
    rw [hslots, if_neg hc]
  case idle =>
    intro c
    rw [Scheduler.idle_complete hcomplete]
    by_cases hempty : l.scheduler.pending = []
    · rw [if_pos hempty, Bits.getLsbD_insert]
      simp [hempty]
    · rw [if_neg hempty]
      simp [hempty]
  case handles => rw [hcompletions, CompletionTable.length_entries_signal]
  case signalled =>
    intro n hn
    rw [hcompletions, CompletionTable.isComplete_signal_iff, and_iff_left hn]

theorem retire_eq_error_iff (l : TransferLedger) (irq : UInt32) :
    (∃ e, l.retire irq = .error e) ↔ (l.scheduler.channelOf? irq).bind l.scheduler.running? = none := by
  cases hretire : l.retire irq with
  | ok p =>
    obtain ⟨hchannel, hrunning, -⟩ := retire_freed hretire
    simp [hchannel, hrunning]
  | error e =>
    refine iff_of_true ⟨e, rfl⟩ ?_
    cases hchannel : l.scheduler.channelOf? irq with
    | none => rfl
    | some c =>
      cases hrunning : l.scheduler.running? c with
      | none => exact hrunning
      | some r =>
        obtain ⟨done, s, hcomplete, -⟩ := Scheduler.complete_of_running hchannel hrunning
        simp only [retire, hcomplete] at hretire
        cases hretire

end TransferLedger

/-! ## The counters -/

theorem DirectionCounters.record_counts (c : DirectionCounters) (bytes : UInt32) (elapsed : Duration)
    (tracking : Bool) :
    (c.record bytes elapsed tracking).buffers = c.buffers + 1 ∧
      (c.record bytes elapsed tracking).bytes = c.bytes + bytes.toUInt64 := by
  simp only [record]
  cases tracking with
  | false => exact ⟨rfl, rfl⟩
  | true => cases speed? bytes.toNat elapsed <;> exact ⟨rfl, rfl⟩

namespace Statistics

/-- `t` is `s` with one transfer more in a direction; its speed may have been sampled with it -/
structure CountsOne (s : Statistics) (direction : Direction) (bytes : UInt32) (t : Statistics) : Prop where
  buffers : (t.counters direction).buffers = (s.counters direction).buffers + 1
  bytes : (t.counters direction).bytes = (s.counters direction).bytes + bytes.toUInt64
  others : ∀ other, other ≠ direction → t.counters other = s.counters other
  rest : t.opens = s.opens ∧ t.releases = s.releases ∧ t.polls = s.polls ∧ t.controls = s.controls ∧
    t.tracking = s.tracking

theorem countsOne_recordTransfer (s : Statistics) (direction : Direction) (bytes : UInt32) (elapsed : Duration) :
    s.CountsOne direction bytes (s.recordTransfer direction bytes elapsed) := by
  cases direction with
  | up =>
    obtain ⟨hbuffers, hbytes⟩ := s.read.record_counts bytes elapsed s.tracking
    exact ⟨hbuffers, hbytes, fun | .down, _ => rfl | .up, h => absurd rfl h, rfl, rfl, rfl, rfl, rfl⟩
  | down =>
    obtain ⟨hbuffers, hbytes⟩ := s.write.record_counts bytes elapsed s.tracking
    exact ⟨hbuffers, hbytes, fun | .up, _ => rfl | .down, h => absurd rfl h, rfl, rfl, rfl, rfl, rfl⟩

end Statistics

/-! ## Devices -/

namespace Device

variable {ε : Type}

/-- `e` differs from `d` at most in what an interrupt may touch: the books, the counters, the engine, the registers and
the events on their way -/
structure Apart (d e : Device ε) : Prop where
  config : e.config = d.config
  memory : e.memory = d.memory
  nextSession : e.nextSession = d.nextSession
  elapsed : e.elapsed = d.elapsed

theorem Apart.refl (d : Device ε) : Apart d d := ⟨rfl, rfl, rfl, rfl⟩

theorem Apart.trans {d e f : Device ε} (h : Apart d e) (h' : Apart e f) : Apart d f :=
  ⟨h'.config.trans h.config, h'.memory.trans h.memory, h'.nextSession.trans h.nextSession,
    h'.elapsed.trans h.elapsed⟩

/-- counting a retirement and telling of it -/
theorem told_account (x : Retired) (d : Device ε) :
    ((d.account x).dispatcher, (d.account x).registry) =
      (d.dispatcher.dispatch (.ofPayload (.dmaDone x.ticket (d.elapsed x.ticket) x.cookie)) d.registry).2 := rfl

theorem interruptWith_apart {kick : Start → Device ε → Device ε × EngineActivity (Except Error InterruptOutcome)}
    (hkick : ∀ start e, Apart e (kick start e).1) (irq : UInt32) (d : Device ε) :
    Apart d (interruptWith kick irq d).2.1 := by
  simp only [interruptWith]
  split
  · exact .refl d
  · exact ⟨rfl, rfl, rfl, rfl⟩
  · simp only [retireWith]
    cases d.ledger.retire irq with
    | error e => exact .refl d
    | ok p =>
      have hstart : ∀ start?, Apart d (kickOff? kick start? { d with ledger := p.2 }).1 := by
        intro start?
        have hbooks : Apart d { d with ledger := p.2 } := ⟨rfl, rfl, rfl, rfl⟩
        exact kickOff?_keeps (P := Apart d) (fun start e he => he.trans (hkick start e)) start? _ hbooks
      obtain ⟨hconfig, hmemory, hnext, helapsed⟩ := hstart p.1.next
      exact ⟨hconfig, hmemory, hnext, helapsed⟩

variable [TransferEngine ε]

/-- telling the engine a start touches the engine or the registers, and the subscribers to these -/
theorem launch_cases (start : Start) (d : Device ε) :
    ∃ engine table registry,
      (launch start d).state = { d with engine := engine, table := table, registry := registry } := by
  cases h : d.engine with
  | some engine => exact ⟨_, _, _, launch_of_engine h start⟩
  | none =>
    rw [launch_of_board h]
    cases d.table.onBank? d.config.mode.dmaBar start.program with
    | none => exact ⟨_, _, _, rfl⟩
    | some o => exact ⟨_, _, _, rfl⟩

theorem launch_apart (start : Start) (d : Device ε) : Apart d (launch start d).state := by
  obtain ⟨engine, table, registry, h⟩ := launch_cases start d
  rw [h]
  exact ⟨rfl, rfl, rfl, rfl⟩

theorem kickOff_apart {answer : UInt32 → Device ε → Result ε (Except Error InterruptOutcome)}
    (h : ∀ irq e, Apart e (answer irq e).2.1) (start : Start) (d : Device ε) :
    Apart d (kickOff launch answer start d).1 :=
  kickOff_keeps (P := Apart d) (fun start e he => he.trans (launch_apart start e))
    (fun irq e he => he.trans (h irq e)) start d (.refl d)

theorem interruptWithin_apart (depth : Nat) (irq : UInt32) (d : Device ε) :
    Apart d (interruptWithin depth irq d).2.1 := by
  induction depth generalizing irq d with
  | zero => exact interruptWith_apart (fun _ e => .refl e) irq d
  | succ depth ih => exact interruptWith_apart (kickOff_apart ih) irq d

/-! ## The bound is never reached -/

omit [TransferEngine ε] in
/-- what starts a transfer matters only on the states that a retirement leaves -/
theorem interruptWith_congr
    {kick kick' : Start → Device ε → Device ε × EngineActivity (Except Error InterruptOutcome)}
    (irq : UInt32) (d : Device ε)
    (h : ∀ start e, e.ledger.scheduler.pending.length < d.ledger.scheduler.pending.length →
      kick start e = kick' start e) :
    interruptWith kick irq d = interruptWith kick' irq d := by
  cases hroute : d.router.route irq with
  | error e => simp only [interruptWith, hroute]
  | ok route =>
    cases route with
    | source vector name => simp only [interruptWith, hroute]
    | dma c =>
      simp only [interruptWith, hroute, retireWith]
      cases hretire : d.ledger.retire irq with
      | error e => rfl
      | ok p =>
        obtain ⟨done, l⟩ := p
        obtain ⟨hpending, hnext⟩ := Scheduler.pending_of_complete (TransferLedger.retire_cases hretire).1
        have hkick : kickOff? kick done.next { d with ledger := l } =
            kickOff? kick' done.next { d with ledger := l } := by
          cases hstart : done.next with
          | none => rfl
          | some start =>
            have hpos := List.length_pos_iff.2 (hnext.1 (by rw [hstart]; rfl))
            refine h start _ ?_
            rw [hpending, List.length_tail]
            omega
        simp only [hkick]

/-- more depth than there are requests waiting makes no difference -/
theorem interruptWithin_eq {n depth : Nat} (hdepth : n ≤ depth) (irq : UInt32) (d : Device ε)
    (hd : d.ledger.scheduler.pending.length ≤ n) : interruptWithin depth irq d = interruptWithin n irq d := by
  induction n generalizing depth irq d with
  | zero =>
    cases depth with
    | zero => rfl
    | succ depth =>
      apply interruptWith_congr
      intro start e he
      omega
  | succ n ih =>
    obtain ⟨depth, rfl⟩ : ∃ m, depth = m + 1 := ⟨depth - 1, by omega⟩
    apply interruptWith_congr
    intro start e he
    -- the states that come up inside a start have no more than `n` requests waiting
    apply kickOff_congr (P := fun s : Device ε => s.ledger.scheduler.pending.length ≤ n)
    · intro start s hs
      rwa [ledger_launch]
    · intro irq s hs
      exact ih (by omega) irq s hs
    · intro irq s hs
      exact Nat.le_trans (interruptWithin_settles depth irq s (by omega)).pending_le hs
    · omega

/-- an interrupt that retires a request starts the head of the queue, and what the engine raises meanwhile is answered
as any interrupt is -/
theorem interrupt_eq (irq : UInt32) (d : Device ε) :
    interrupt irq d = interruptWith (kickOff launch interrupt) irq d := by
  unfold interrupt
  cases hlen : d.ledger.scheduler.pending.length with
  | zero =>
    apply interruptWith_congr
    intro start e he
    omega
  | succ n =>
    apply interruptWith_congr
    intro start e he
    apply kickOff_congr (P := fun s : Device ε => s.ledger.scheduler.pending.length ≤ n)
    · intro start s hs
      rwa [ledger_launch]
    · intro irq s hs
      exact interruptWithin_eq hs irq s (Nat.le_refl _)
    · intro irq s hs
      exact Nat.le_trans (interruptWithin_settles n irq s hs).pending_le hs
    · omega

/-! ## What an interrupt leaves behind -/

/-- `f` is what a start leaves of `e`, if there is one to make -/
structure Started (start? : Option Start) (e f : Device ε)
    (activity : EngineActivity (Except Error InterruptOutcome)) : Prop where
  idle : start? = none → f = e ∧ activity = {}
  /-- the engine is told the start; if it raises interrupts meanwhile, each of them is answered in its own right -/
  told : ∀ start, start? = some start → activity.starts.head? = some start ∧
    f = (launch start e).raised.foldl (fun e irq => (interrupt irq e).2.1) (launch start e).state
  /-- if it raises none, the start touches the engine or the registers, and the subscribers to these -/
  alone : activity.answers = [] → activity.starts = start?.toList ∧
    ∃ engine table registry, f = { e with engine := engine, table := table, registry := registry }
  apart : Apart e f

theorem started_kickOff? (start? : Option Start) (e : Device ε) :
    Started start? e (kickOff? (kickOff launch interrupt) start? e).1
      (kickOff? (kickOff launch interrupt) start? e).2 := by
  have hkick : ∀ start (e : Device ε), Apart e (kickOff launch interrupt start e).1 :=
    kickOff_apart fun irq e => interruptWithin_apart _ irq e
  cases start? with
  | none => exact ⟨fun _ => ⟨rfl, rfl⟩, nofun, fun _ => ⟨rfl, _, _, _, rfl⟩, .refl e⟩
  | some start =>
    refine ⟨nofun, ?_, ?_, hkick start e⟩
    · rintro _ ⟨⟩
      exact ⟨rfl, answerAll_state _ _ _⟩
    · intro halone
      have hraised : (launch start e).raised = [] := eq_nil_of_answers_answerAll halone
      simp only [kickOff?, kickOff, hraised, answerAll]
      exact ⟨rfl, launch_cases start e⟩

/-- what the retirement of `r` from channel `ch` leaves of a device: `l` are the books when the request is off its
channel, and `mid` is the device when the head of the queue has been started there -/
structure Retirement (d : Device ε) (ch : Nat) (r : Request) (l : TransferLedger) (mid after : Device ε)
    (activity : EngineActivity (Except Error InterruptOutcome)) : Prop where
  books : d.ledger.Freed ch r l
  started : Started (d.ledger.scheduler.pending.head?.map fun q => q.startOn ch) { d with ledger := l } mid activity
  /-- the transfer is counted once, in its own direction -/
  counted : mid.statistics.CountsOne r.descriptor.direction r.descriptor.length after.statistics
  /-- and its end is handed to the dispatcher, once -/
  told : (after.dispatcher, after.registry) =
    (mid.dispatcher.dispatch (.ofPayload (.dmaDone r.ticket (d.elapsed r.ticket) r.cookie)) mid.registry).2
  rest : after =
    { mid with statistics := after.statistics, dispatcher := after.dispatcher, registry := after.registry }

theorem retirement_of_retire {irq : UInt32} {d : Device ε} {c : Nat} (hroute : d.router.route irq = .ok (.dma c))
    {done : Completed} {l : TransferLedger} (hretire : d.ledger.retire irq = .ok (done, l)) :
    ∃ mid, Retirement d done.channel done.request l mid (interrupt irq d).2.1 (interrupt irq d).2.2 := by
  obtain ⟨-, -, hnext, hfreed⟩ := TransferLedger.retire_freed hretire
  have hstarted := started_kickOff? done.next { d with ledger := l }
  have heq : interrupt irq d =
      (.ok (.dmaDone (done.request.retiredOn done.channel)),
        (kickOff? (kickOff launch interrupt) done.next { d with ledger := l }).1.account
          (done.request.retiredOn done.channel),
        (kickOff? (kickOff launch interrupt) done.next { d with ledger := l }).2) := by
    simp only [interrupt_eq, interruptWith, hroute, retireWith, hretire]
  rw [heq]
  refine ⟨_, {
    books := hfreed
    started := hnext ▸ hstarted
    counted := Statistics.countsOne_recordTransfer _ _ _ _
    told := ?_
    rest := rfl }⟩
  rw [told_account, hstarted.apart.elapsed]
  rfl

omit [TransferEngine ε] in
/-- where the number leads decides the answer, and for a DMA vector the books do -/
theorem answerTo_cases (irq : UInt32) (d : Device ε) :
    (∃ e, d.router.route irq = .error e ∧ d.answerTo irq = .error e) ∨
      (∃ v name, d.router.route irq = .ok (.source v name) ∧ d.answerTo irq = .ok (.forwarded (sourceOfVector v))) ∨
      (∃ c e, d.router.route irq = .ok (.dma c) ∧ d.ledger.retire irq = .error e ∧
        d.answerTo irq = .ok .spurious) ∨
      ∃ c p, d.router.route irq = .ok (.dma c) ∧ d.ledger.retire irq = .ok p ∧
        d.answerTo irq = .ok (.dmaDone p.1.report) := by
  unfold answerTo
  cases d.router.route irq with
  | error e => exact .inl ⟨e, rfl, rfl⟩
  | ok route =>
    cases route with
    | source v name => exact .inr (.inl ⟨v, name, rfl, rfl⟩)
    | dma c =>
      cases d.ledger.retire irq with
      | error e => exact .inr (.inr (.inl ⟨c, e, rfl, rfl, rfl⟩))
      | ok p => exact .inr (.inr (.inr ⟨c, p, rfl, rfl, rfl⟩))

omit [TransferEngine ε] in
theorem answerTo_eq_error_iff (irq : UInt32) (d : Device ε) (e : Error) :
    d.answerTo irq = .error e ↔ d.router.route irq = .error e := by
  rcases d.answerTo_cases irq with ⟨_, hr, ha⟩ | ⟨_, _, hr, ha⟩ | ⟨_, _, hr, -, ha⟩ | ⟨_, _, hr, -, ha⟩ <;>
    simp [hr, ha]

omit [TransferEngine ε] in
theorem answerTo_eq_forwarded_iff (irq : UInt32) (d : Device ε) (source : UInt32) :
    d.answerTo irq = .ok (.forwarded source) ↔
      ∃ v name, d.router.route irq = .ok (.source v name) ∧ source = sourceOfVector v := by
  rcases d.answerTo_cases irq with ⟨_, hr, ha⟩ | ⟨_, _, hr, ha⟩ | ⟨_, _, hr, -, ha⟩ | ⟨_, _, hr, -, ha⟩ <;>
    simp [hr, ha, eq_comm]

omit [TransferEngine ε] in
theorem answerTo_eq_spurious_iff (irq : UInt32) (d : Device ε) :
    d.answerTo irq = .ok .spurious ↔
      ∃ c, d.router.route irq = .ok (.dma c) ∧ ∃ e, d.ledger.retire irq = .error e := by
  rcases d.answerTo_cases irq with ⟨_, hr, ha⟩ | ⟨_, _, hr, ha⟩ | ⟨_, _, hr, hd, ha⟩ | ⟨_, _, hr, hd, ha⟩ <;>
    simp [*]

omit [TransferEngine ε] in
theorem answerTo_eq_dmaDone_iff (irq : UInt32) (d : Device ε) (x : Retired) :
    d.answerTo irq = .ok (.dmaDone x) ↔
      ∃ c, d.router.route irq = .ok (.dma c) ∧ (d.ledger.retire irq).map (fun p => p.1.report) = .ok x := by
  rcases d.answerTo_cases irq with ⟨_, hr, ha⟩ | ⟨_, _, hr, ha⟩ | ⟨_, _, hr, hd, ha⟩ | ⟨_, _, hr, hd, ha⟩ <;>
    simp [*, Except.map]

/-- the answers to an interrupt, what each of them is given for, and what each of them leaves behind -/
structure Answers (irq : UInt32) (d : Device ε) (answer : Except Error InterruptOutcome) (after : Device ε)
    (activity : EngineActivity (Except Error InterruptOutcome)) : Prop where
  /-- no error is given but this one, and it is given if the number is not that of an enabled vector -/
  refused_iff : (∃ e, answer = .error e) ↔ ¬ ∃ v, d.router.Arrives v irq ∧ (d.config.mode.vector v).isEnabled
  refused : ∀ e, answer = .error e → (∃ reason, e = .invalidArgument reason) ∧ after = d ∧ activity = {}
  /-- a DMA vector is spurious if no channel is bound to it, or if there is no request on the channel -/
  spurious_iff : answer = .ok .spurious ↔
    ∃ v c, d.router.Arrives v irq ∧ d.config.mode.vector v = .dmaDone c ∧
      (d.ledger.scheduler.channelOf? irq).bind d.ledger.scheduler.running? = none
  spurious : answer = .ok .spurious → after = d ∧ activity = {}
  /-- a vector that stands for a source is forwarded, as the bit of the vector -/
  forwarded_iff : ∀ source, answer = .ok (.forwarded source) ↔
    ∃ v name, d.router.Arrives v irq ∧ d.config.mode.vector v = .source name ∧ source.toNat = 2 ^ v
  /-- the interrupt is handed to the dispatcher, once, and nothing else happens -/
  forwarded : ∀ source, answer = .ok (.forwarded source) → activity = {} ∧ after = { d with
    dispatcher := (d.dispatcher.dispatch (.ofPayload (.interrupt source)) d.registry).2.1
    registry := (d.dispatcher.dispatch (.ofPayload (.interrupt source)) d.registry).2.2 }
  /-- otherwise the answer reports the request that was on the channel of the interrupt -/
  done_iff : ∀ x, answer = .ok (.dmaDone x) ↔
    ∃ v c ch r, d.router.Arrives v irq ∧ d.config.mode.vector v = .dmaDone c ∧
      d.ledger.scheduler.channelOf? irq = some ch ∧ d.ledger.scheduler.running? ch = some r ∧ x = r.retiredOn ch
  done : ∀ x, answer = .ok (.dmaDone x) → ∃ ch r l mid, d.ledger.scheduler.channelOf? irq = some ch ∧
    d.ledger.scheduler.running? ch = some r ∧ x = r.retiredOn ch ∧ Retirement d ch r l mid after activity
  /-- an engine with a record has recorded the starts of the log, and nothing else is different -/
  told : ∀ before, interrupt irq (d.recording before) =
    (answer, after.recording (before ++ activity.starts), activity)

/-- **The interrupt entry point, case by case.** On every device, in every state and for every number, an interrupt has
one of these four answers, for these reasons, and leaves this behind. -/
theorem interrupt_cases (irq : UInt32) (d : Device ε) :
    Answers irq d (interrupt irq d).1 (interrupt irq d).2.1 (interrupt irq d).2.2 where
  refused_iff := by
    simp only [interrupt_answer, answerTo_eq_error_iff, InterruptRouter.route_eq_error_iff]
    rfl
  refused e he := by
    rw [interrupt_answer, answerTo_eq_error_iff] at he
    have heq : interrupt irq d = (.error e, d, {}) := by simp only [interrupt_eq, interruptWith, he]
    rw [heq]
    exact ⟨InterruptRouter.invalidArgument_of_route he, rfl, rfl⟩
  spurious_iff := by
    simp only [interrupt_answer, answerTo_eq_spurious_iff, InterruptRouter.route_eq_dma_iff,
      TransferLedger.retire_eq_error_iff]
    constructor
    · rintro ⟨c, ⟨v, hv, hvector⟩, hnone⟩
      exact ⟨v, c, hv, hvector, hnone⟩
    · rintro ⟨v, c, hv, hvector, hnone⟩
      exact ⟨c, ⟨v, hv, hvector⟩, hnone⟩
  spurious h := by
    rw [interrupt_answer, answerTo_eq_spurious_iff] at h
    obtain ⟨c, hroute, e, hretire⟩ := h
    have heq : interrupt irq d = (.ok .spurious, d, {}) := by
      simp only [interrupt_eq, interruptWith, hroute, retireWith, hretire]
    rw [heq]
    exact ⟨rfl, rfl⟩
  forwarded_iff source := by
    simp only [interrupt_answer, answerTo_eq_forwarded_iff, InterruptRouter.route_eq_source_iff]
    refine exists_congr fun v => exists_congr fun name => ?_
    rw [and_assoc]
    refine and_congr_right fun hv => and_congr_right fun _ => ?_
    rw [← toNat_sourceOfVector hv.1, UInt32.toNat_inj]
  forwarded source h := by
    rw [interrupt_answer, answerTo_eq_forwarded_iff] at h
    obtain ⟨v, name, hroute, rfl⟩ := h
    have heq : interrupt irq d =
        (.ok (.forwarded (sourceOfVector v)), d.tell (.interrupt (sourceOfVector v)), {}) := by
      simp only [interrupt_eq, interruptWith, hroute]
    rw [heq]
    exact ⟨rfl, rfl⟩
  done_iff x := by
    simp only [interrupt_answer, answerTo_eq_dmaDone_iff, InterruptRouter.route_eq_dma_iff,
      TransferLedger.retire_report_iff]
    constructor
    · rintro ⟨c, ⟨v, hv, hvector⟩, ch, r, hchannel, hrunning, hx⟩
      exact ⟨v, c, ch, r, hv, hvector, hchannel, hrunning, hx⟩
    · rintro ⟨v, c, ch, r, hv, hvector, hchannel, hrunning, hx⟩
      exact ⟨c, ⟨v, hv, hvector⟩, ch, r, hchannel, hrunning, hx⟩
  done x h := by
    rw [interrupt_answer, answerTo_eq_dmaDone_iff] at h
    obtain ⟨c, hroute, hreport⟩ := h
    cases hretire : d.ledger.retire irq with
    | error e =>
      rw [hretire] at hreport
      cases hreport
    | ok p =>
      obtain ⟨done, l⟩ := p
      rw [hretire] at hreport
      obtain ⟨hchannel, hrunning, -⟩ := TransferLedger.retire_freed hretire
      obtain ⟨mid, hretirement⟩ := retirement_of_retire hroute hretire
      exact ⟨done.channel, done.request, l, mid, hchannel, hrunning, (Except.ok.inj hreport).symm, hretirement⟩
  told before := interrupt_recording irq d before

end Device
end BoardDriver
