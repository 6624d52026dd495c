/-
Which transfers the way in for the hardware can retire.

The scheduler binds channel `c` to interrupt `base + c`, for every channel that the board reports: up to 15 of them. The
vectors of the board have a table of their own: vector `c` reports channel `c` for the first eight channels, on an Fvd
board for channel 0 alone. So a transfer on a channel beyond these is never retired by an interrupt.

- `route_of_arrives`, `route_add`: where the interrupt of a channel leads;
- `wired_of_build`, `wired_invariant`: the channels of a device that was built, and of whatever it becomes, are bound
  like that;
- `answerTo_in_flight`: what the interrupt of a channel with a transfer is answered;
- `stuck_invariant`: a transfer on a channel that no vector reports stays there until a reset.
-/
import BoardDriver.Proofs.Binding
import BoardDriver.Proofs.DeviceLedger

namespace BoardDriver

/-! ## Routes -/

/-- whether a vector reports that the channel is done -/
def Mode.Reports (m : Mode) (c : Nat) : Prop := if m = .fvd then c = 0 else c < 8

instance (m : Mode) (c : Nat) : Decidable (m.Reports c) := by
  unfold Mode.Reports; infer_instance

theorem Mode.vector_eq_dmaDone_iff (m : Mode) (v c : Nat) : m.vector v = .dmaDone c ↔ v = c ∧ m.Reports c := by
  by_cases hm : m = .fvd
  · subst hm
    simp only [vector, Reports, if_true]
    split <;> first | contradiction | simp_all <;> omega
  · simp only [vector, Reports, if_neg hm]
    split <;> first | contradiction | (try split) <;> simp <;> omega

namespace InterruptRouter

/-- an interrupt is the number under which a vector arrives -/
def Arrives (r : InterruptRouter) (v : Nat) (irq : UInt32) : Prop :=
  v < vectorCount ∧ irq.toNat = r.base.toNat + v

/-- where the interrupt of a vector leads -/
theorem route_of_arrives {r : InterruptRouter} {v : Nat} {irq : UInt32} (h : r.Arrives v irq) :
    r.route irq = match r.mode.vector v with
      | .dmaDone channel => .ok (.dma channel)
      | .source name => .ok (.source v name)
      | .disabled => .error (.invalidArgument (.vectorDisabled v)) := by
  obtain ⟨hv, hirq⟩ := h
  have hsub : irq.toNat - r.base.toNat = v := by omega
  have hin : ¬ (irq < r.base ∨ vectorCount ≤ v) := by
    rw [UInt32.lt_iff_toNat_lt]
    omega
  cases hvector : r.mode.vector v <;> simp only [route, hsub, if_neg hin, hvector]

theorem route_add (r : InterruptRouter) {v : Nat} (hv : v < vectorCount) (hfit : r.base.toNat + v < 2 ^ 32) :
    r.route (r.base + UInt32.ofNat v) =
      match r.mode.vector v with
      | .dmaDone channel => .ok (.dma channel)
      | .source name => .ok (.source v name)
      | .disabled => .error (.invalidArgument (.vectorDisabled v)) :=
  route_of_arrives ⟨hv, toNat_add_ofNat hfit⟩

theorem vector_of_route {r : InterruptRouter} {irq : UInt32} {c : Nat} (h : r.route irq = .ok (.dma c)) :
    r.mode.vector (irq.toNat - r.base.toNat) = .dmaDone c := by
  simp only [route] at h
  split at h
  · cases h
  · split at h
    · rename_i channel hv
      cases h
      exact hv
    · cases h
    · cases h

end InterruptRouter

/-! ## The wiring -/

/-- the books of a device: sound, 15 channels at most, channel `c` bound to interrupt `base + c` -/
structure Wired (base : UInt32) (l : TransferLedger) : Prop where
  sound : l.scheduler.Sound
  few : l.scheduler.capacity ≤ 15
  bound : l.scheduler.IsBoundFrom base

theorem wired_invariant (mode : Mode) (base : UInt32) : LedgerInvariant ⟨mode, base⟩ (Wired base) where
  create l descriptor cookie watched w := by
    have hs := l.scheduler_newRequest descriptor cookie watched
    exact ⟨hs ▸ w.sound, hs ▸ w.few, hs ▸ w.bound⟩
  submit l r w := by
    refine ⟨w.sound.submit r, ?_, w.bound.submit r⟩
    exact Nat.le_trans (Nat.le_of_eq (Scheduler.capacity_submit l.scheduler r)) w.few
  retire irq c done l m _ hd w := by
    obtain ⟨hc, -, -⟩ := TransferLedger.retire_cases hd
    exact ⟨w.sound.complete hc, Scheduler.capacity_complete hc ▸ w.few, w.bound.complete hc⟩

theorem Wired.reset {base : UInt32} (l : TransferLedger) (w : Wired base l) : Wired base l.reset.2 := by
  refine ⟨w.sound.reset, ?_, w.bound.reset⟩
  exact Nat.le_trans (Nat.le_of_eq (Scheduler.capacity_reset l.scheduler)) w.few

/-- a transfer on a channel that no vector reports stays there -/
theorem stuck_invariant {mode : Mode} {base : UInt32} {c : Nat} (hno : ¬ mode.Reports c) (r : Request) :
    LedgerInvariant ⟨mode, base⟩ fun l => Wired base l ∧ l.scheduler.running? c = some r where
  create l descriptor cookie watched h :=
    ⟨(wired_invariant mode base).create l descriptor cookie watched h.1, by
      rw [TransferLedger.scheduler_newRequest]
      exact h.2⟩
  submit l q h := by
    refine ⟨(wired_invariant mode base).submit l q h.1, ?_⟩
    cases hl : Bits.lowest? l.scheduler.idle with
    | none =>
      have hs : (l.submit q).2.scheduler = _ := congrArg Prod.snd (Scheduler.submit_of_busy hl q)
      rw [hs]
      exact h.2
    | some ch =>
      -- the channel is idle, so it is another one
      have hs : (l.submit q).2.scheduler = _ := congrArg Prod.snd (Scheduler.submit_of_idle hl q)
      obtain ⟨-, hfree, -⟩ := h.1.sound.of_lowest? hl
      have hne : c ≠ ch := by
        rintro rfl
        cases hfree.symm.trans h.2
      rw [hs, Scheduler.running?_assign, if_neg fun he => hne he.1]
      exact h.2
  retire irq ch done l m hroute hd h := by
    refine ⟨(wired_invariant mode base).retire irq ch done l m hroute hd h.1, ?_⟩
    obtain ⟨hc, -, -⟩ := TransferLedger.retire_cases hd
    obtain ⟨hch, -, -⟩ := Scheduler.complete_cases hc
    obtain ⟨hlt, hirq⟩ := (h.1.bound.channelOf?_eq_some_iff irq done.channel).1 hch
    have hvector := InterruptRouter.vector_of_route hroute
    simp only [hirq, h.1.bound.toNat_irq hlt, Nat.add_sub_cancel_left] at hvector
    have hne : c ≠ done.channel := by
      rintro rfl
      obtain ⟨rfl, hrep⟩ := (mode.vector_eq_dmaDone_iff _ _).1 hvector
      exact hno hrep
    rw [Scheduler.running?_complete hc, if_neg hne]
    exact h.2

/-! ## Devices -/

theorem exists_ok_of_bind {α β : Type} {x : Except Error α} {f : α → Except Error β} {b : β}
    (h : (x >>= f) = .ok b) : ∃ a, x = .ok a ∧ f a = .ok b := by
  cases x with
  | error e => cases h
  | ok a => exact ⟨a, rfl, h⟩

theorem eq_ok_get_toOption {α : Type} (x : Except Error α) (h : x.toOption.isSome = true) :
    x = .ok (x.toOption.get h) := by
  cases x with
  | error e => cases h
  | ok a => rfl

theorem Action.exists_ok_of_bind {σ α β : Type} {x : Action σ α} {f : α → Action σ β} {s : σ} {b : β}
    (h : ((x >>= f) s).result = .ok b) : ∃ a, (x s).result = .ok a ∧ (f a (x s).state).result = .ok b := by
  change (Action.bind x f s).result = .ok b at h
  cases hx : (x s).result with
  | error e =>
    rw [Action.bind_of_error hx] at h
    cases h
  | ok a =>
    rw [Action.bind_of_ok hx] at h
    exact ⟨a, rfl, h⟩

/-- the low four bits of the capability count the channels -/
theorem channels_le_of_probe {β : Type} [RegisterBackend β] {mode : Mode} {bank : RegisterBank β}
    {report : ChannelReport} (h : (probeChannels mode bank).result = .ok report) : report.channels ≤ 15 := by
  simp only [probeChannels] at h
  split at h
  · cases h
    decide
  · obtain ⟨capability, -, h⟩ := Action.exists_ok_of_bind h
    obtain ⟨status, -, h⟩ := Action.exists_ok_of_bind h
    cases h
    exact (UInt32.toNat_and capability DmaRegister.channelCountMask) ▸ Nat.and_le_right

namespace Device

variable {ε : Type}

theorem probeScheduler_cases {config : Config} {bank : RegisterBank BoardBackend} {s : Scheduler}
    (h : probeScheduler config bank = .ok s) :
    ∃ report : ChannelReport, report.channels ≤ 15 ∧
      ((Scheduler.fresh report.channels report.idle).bindInterrupts config.irqBase).1 = .ok () ∧
      s = ((Scheduler.fresh report.channels report.idle).bindInterrupts config.irqBase).2 := by
  obtain ⟨report, hreport, h⟩ := exists_ok_of_bind h
  obtain ⟨_, hbound, h⟩ := exists_ok_of_bind h
  cases h
  exact ⟨report, channels_le_of_probe hreport, hbound, rfl⟩

theorem wired_of_build {files : HostFiles} {config : Config} {engine : Option ε} {d : Device ε}
    (h : build files config engine = .ok d) : d.Holds config (Wired config.irqBase) := by
  obtain ⟨-, -, h⟩ := exists_ok_of_bind h
  obtain ⟨table, -, h⟩ := exists_ok_of_bind h
  obtain ⟨bank, -, h⟩ := exists_ok_of_bind h
  obtain ⟨s, hs, h⟩ := exists_ok_of_bind h
  obtain ⟨dispatcher, -, h⟩ := exists_ok_of_bind h
  obtain ⟨report, hle, hbound, rfl⟩ := probeScheduler_cases hs
  cases h
  have load := Scheduler.sameLoad_bindInterrupts config.irqBase (.fresh report.channels report.idle)
  refine ⟨rfl, (Scheduler.sound_fresh _ _).of_sameLoad load, ?_, Scheduler.isBoundFrom_bindInterrupts hbound⟩
  rw [load.capacity]
  simp only [Scheduler.fresh, Scheduler.capacity, List.length_replicate]
  omega

/-- what the interrupt of a channel with a transfer is answered: its vector reports the channel, or stands for
something else -/
theorem answerTo_in_flight {config : Config} {d : Device ε} (h : d.Holds config (Wired config.irqBase)) {c : Nat}
    {r : Request} (hr : d.ledger.scheduler.running? c = some r) :
    d.answerTo (config.irqBase + UInt32.ofNat c) =
      match config.mode.vector c with
      | .dmaDone _ => .ok (.dmaDone (r.retiredOn c))
      | .source _ => .ok (.forwarded (sourceOfVector c))
      | .disabled => .error (.invalidArgument (.vectorDisabled c)) := by
  obtain ⟨rfl, w⟩ := h
  have hlt := Scheduler.lt_capacity_of_running? hr
  have hfits := w.bound.fits
  have hvector : c < vectorCount := Nat.lt_trans (Nat.lt_of_lt_of_le hlt w.few) (by decide)
  have hroute := d.router.route_add hvector (Nat.lt_of_lt_of_le (Nat.add_lt_add_left hlt _) hfits)
  have hchannel := (w.bound.channelOf?_eq_some_iff _ c).2 ⟨hlt, rfl⟩
  simp only [answerTo]
  rw [show d.router.route (d.config.irqBase + UInt32.ofNat c) = _ from hroute]
  simp only [router]
  cases d.config.mode.vector c with
  | disabled => rfl
  | source name => rfl
  | dmaDone ch =>
    have hreport := (d.ledger.retire_report_iff _ _).2 ⟨c, r, hchannel, hr, rfl⟩
    cases hd : d.ledger.retire (d.config.irqBase + UInt32.ofNat c) with
    | error e => rw [hd] at hreport; cases hreport
    | ok p =>
      rw [hd] at hreport
      exact congrArg (Except.ok ∘ InterruptOutcome.dmaDone) (Except.ok.inj hreport)

variable [TransferEngine ε]

theorem wired_run {files : HostFiles} {config : Config} {engine : Option ε} {d : Device ε}
    (hbuild : build files config engine = .ok d) (commands : List Command) :
    (d.run commands).1.Holds config (Wired config.irqBase) :=
  run_holds (wired_invariant config.mode config.irqBase) commands (fun _ => Wired.reset) d (wired_of_build hbuild)

/-- **What the interrupt of a channel retires.** In every state of a device that was built, for every channel with a
transfer, bound as it is to interrupt `base + c`: that interrupt retires the transfer if channel `c` is one of the first
eight, on an Fvd board channel 0, and only then. On any other channel it is told to whoever asked for the source that
vector `c` stands for, or refused, and the transfer stays there until a reset. -/
theorem interrupt_of_in_flight {files : HostFiles} {config : Config} {engine : Option ε} {d : Device ε}
    (hbuild : build files config engine = .ok d) (commands : List Command) :
    let e := (d.run commands).1
    ∀ c r, e.ledger.scheduler.running? c = some r →
      config.irqBase.toNat + c < 2 ^ 32 ∧
      e.ledger.scheduler.channelOf? (config.irqBase + UInt32.ofNat c) = some c ∧
      ((interrupt (config.irqBase + UInt32.ofNat c) e).1 = .ok (.dmaDone (r.retiredOn c)) ↔
        if config.mode = .fvd then c = 0 else c < 8) ∧
      (¬ (if config.mode = .fvd then c = 0 else c < 8) →
        (interrupt (config.irqBase + UInt32.ofNat c) e).1 = (match config.mode.vector c with
          | .source _ => .ok (.forwarded (sourceOfVector c))
          | _ => .error (.invalidArgument (.vectorDisabled c))) ∧
        ∀ more, more.any Command.isReset = false → (e.run more).1.ledger.scheduler.running? c = some r) := by
  intro e c r hr
  have w : e.Holds config (Wired config.irqBase) := wired_run hbuild commands
  have hlt := Scheduler.lt_capacity_of_running? hr
  have hanswer := (interrupt_answer (config.irqBase + UInt32.ofNat c) e).trans (answerTo_in_flight w hr)
  have hno_vector : ∀ ch, ¬ config.mode.Reports c → config.mode.vector c ≠ .dmaDone ch := by
    intro ch hno hv
    obtain ⟨rfl, hrep⟩ := (config.mode.vector_eq_dmaDone_iff c ch).1 hv
    exact hno hrep
  rw [hanswer]
  refine ⟨Nat.lt_of_lt_of_le (Nat.add_lt_add_left hlt _) w.2.bound.fits,
    (w.2.bound.channelOf?_eq_some_iff _ c).2 ⟨hlt, rfl⟩, ?_, fun hno => ⟨?_, fun more hmore => ?_⟩⟩
  · constructor
    · intro h
      by_contra hno
      cases hv : config.mode.vector c with
      | dmaDone ch => exact hno_vector ch hno hv
      | source name => rw [hv] at h; cases h
      | disabled => rw [hv] at h; cases h
    · intro hrep
      rw [(config.mode.vector_eq_dmaDone_iff c c).2 ⟨rfl, hrep⟩]
  · cases hv : config.mode.vector c with
    | dmaDone ch => exact absurd hv (hno_vector ch hno)
    | source name => rfl
    | disabled => rfl
  · have stuck := run_holds (stuck_invariant hno r) more (fun h => by simp [hmore] at h) e ⟨w.1, w.2, hr⟩
    exact stuck.2.2

/-! ## A board with nine channels -/

/-- a host with one PCIe device, whose controller reports nine channels -/
def nineChannelFiles : HostFiles := fun path =>
  if path = BoardBackend.resourcePath "0000:03:00.0" 0 then some (.file (.ofWords 4096 [(0x10C, 9)])) else none

/-- its device, vector 0 being interrupt 32 -/
def nineChannelBoard : Device (RegisterBank BoardBackend) :=
  (build nineChannelFiles (.pcie "0000:03:00.0" 32) none).toOption.get (by decide)

theorem build_nineChannelBoard :
    build nineChannelFiles (.pcie "0000:03:00.0" 32) none = .ok nineChannelBoard :=
  eq_ok_get_toOption _ _

def nineTransfers : List Command :=
  .openSession :: List.replicate 9 (.session 0 (.submit .down 0 0x1000 64 false))

/-- the transfer that got ticket `i` -/
def nineTransfersRequest (i : Nat) : Request where
  descriptor := .between .down 0 0x1000 64
  ticket := ⟨UInt32.ofNat i⟩
  cookie := ⟨1⟩

/-- the interrupt of the eighth channel retires its transfer; the transfer on the ninth channel stays -/
theorem interrupt_of_in_flight_nineChannelBoard :
    let e := (nineChannelBoard.run nineTransfers).1
    (interrupt 39 e).1 = .ok (.dmaDone ((nineTransfersRequest 8).retiredOn 7)) ∧
    ∀ more, more.any Command.isReset = false →
      (e.run more).1.ledger.scheduler.running? 8 = some (nineTransfersRequest 9) := by
  have hrun := interrupt_of_in_flight build_nineChannelBoard nineTransfers
  have heighth := hrun 7 (nineTransfersRequest 8) (by decide +kernel)
  have hninth := hrun 8 (nineTransfersRequest 9) (by decide +kernel)
  exact ⟨heighth.2.2.1.2 (by decide), (hninth.2.2.2 (by decide)).2⟩

/-- its interrupt is taken for the one that reports a fault of the board -/
theorem not_retired_nineChannelBoard :
    ¬ ∀ (files : HostFiles) (config : Config) (d : Device (RegisterBank BoardBackend)) (commands : List Command)
        (c : Nat) (r : Request), build files config none = .ok d →
      (d.run commands).1.ledger.scheduler.running? c = some r →
      (interrupt (config.irqBase + UInt32.ofNat c) (d.run commands).1).1 = .ok (.dmaDone (r.retiredOn c)) := by
  intro h
  have hretired := h _ _ _ nineTransfers 8 (nineTransfersRequest 9) build_nineChannelBoard (by decide +kernel)
  have hforwarded : (interrupt 40 (nineChannelBoard.run nineTransfers).1).1 = .ok (.forwarded 0x100) := by
    decide +kernel
  cases hforwarded.symm.trans hretired

end Device
end BoardDriver
