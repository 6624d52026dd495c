/-
The pool of channels: what keeps the map of idle channels, the slots of the channels and the queue in step.

`Sound` ties the three records together. A channel that is neither idle nor carries out a request is outside the pool
(`IsOutside`): it was busy when the scheduler was new. Submissions, completions and bindings leave it alone, a reset
takes it in.

- `Sound.submit`, `Sound.complete`, `Sound.reset`, `Sound.of_sameLoad`: each operation keeps the records in step;
- `isOutside_submit`, `isOutside_complete`, `not_isOutside_reset`: who is outside;
- `Sound.census`: a channel is idle, carries out a request, or is outside, and never two of these;
- `Client.inStep_run`: so it is after every run of a client, and the last theorem says what that comes to.
-/
import BoardDriver.Proofs.Client

namespace BoardDriver

namespace Bits

theorem cpopNatRec_eq_countP (m : BitVec 32) (n : Nat) :
    m.cpopNatRec n 0 = (List.range n).countP fun i => m.getLsbD i := by
  induction n with
  | zero => rfl
  | succ n ih =>
    rw [BitVec.cpopNatRec_succ, BitVec.cpopNatRec_eq, ih, List.range_succ, List.countP_append, List.countP_singleton]
    cases m.getLsbD n <;> rfl

/-- the population count counts the set positions -/
theorem toNat_cpop (m : BitVec 32) : m.cpop.toNat = (List.range 32).countP fun i => m.getLsbD i := by
  have hle : m.cpopNatRec 32 0 ≤ 32 := BitVec.cpopNatRec_zero_le m 32
  rw [BitVec.cpop, BitVec.toNat_ofNat, Nat.mod_eq_of_lt (by omega), cpopNatRec_eq_countP]

end Bits

namespace Scheduler

variable {s t : Scheduler}

/-- whether a channel is neither idle nor carries out a request -/
def IsOutside (s : Scheduler) (c : Nat) : Prop :=
  c < s.capacity ∧ s.idle.getLsbD c = false ∧ s.running? c = none

instance (s : Scheduler) (c : Nat) : Decidable (s.IsOutside c) := by
  unfold IsOutside; infer_instance

/-- the idle map, the slots and the queue are in step -/
structure Sound (s : Scheduler) : Prop where
  capacity_le : s.capacity ≤ 32
  idle_lt : ∀ c, s.idle.getLsbD c = true → c < s.capacity
  /-- an idle channel carries out nothing -/
  idle_free : ∀ c, s.idle.getLsbD c = true → s.running? c = none
  /-- nothing waits while a channel is idle -/
  idle_first : ∀ c, s.idle.getLsbD c = true → s.pending = []

/-! ## Every operation keeps the records in step -/

/-- the channel that a request would go to -/
theorem Sound.of_lowest? (h : s.Sound) {c : Nat} (hl : Bits.lowest? s.idle = some c) :
    c < s.capacity ∧ s.running? c = none ∧ s.pending = [] := by
  have hidle : s.idle.getLsbD c = true := ((Bits.lowest?_eq_some_iff _ _).1 hl).1
  exact ⟨h.idle_lt c hidle, h.idle_free c hidle, h.idle_first c hidle⟩

theorem sound_fresh (channels : Nat) (idle : BitVec 32) : (fresh channels idle).Sound := by
  have hcap : (fresh channels idle).capacity = min channels 32 := by simp [fresh, capacity, maxDmaChannels]
  refine ⟨by omega, ?_, ?_, fun _ _ => rfl⟩
  · intro c hc
    simp only [fresh, BitVec.getLsbD_and, Bits.getLsbD_mask, Bool.and_eq_true, decide_eq_true_eq] at hc
    rw [hcap]
    exact hc.2.1
  · intro c _
    simp only [running?, fresh, List.getElem?_replicate]
    split <;> rfl

theorem running?_fresh (channels : Nat) (idle : BitVec 32) (c : Nat) : (fresh channels idle).running? c = none := by
  simp only [running?, fresh, List.getElem?_replicate]
  split <;> rfl

theorem Sound.submit (h : s.Sound) (r : Request) : (s.submit r).2.Sound := by
  cases hl : Bits.lowest? s.idle with
  | none =>
    rw [submit_of_busy hl]
    have hz : s.idle = 0#32 := (Bits.lowest?_eq_none_iff _).1 hl
    have hno : ∀ c, s.idle.getLsbD c = true → False := by simp [hz]
    exact ⟨h.capacity_le, h.idle_lt, h.idle_free, fun c hc => (hno c hc).elim⟩
  | some ch =>
    rw [submit_of_idle hl]
    have hold : ∀ c, (Bits.erase s.idle ch).getLsbD c = true → s.idle.getLsbD c = true ∧ c ≠ ch := by
      simp [Bits.getLsbD_erase]
    refine ⟨by simpa using h.capacity_le, ?_, ?_, fun _ _ => (h.of_lowest? hl).2.2⟩
    · intro c hc
      simpa using h.idle_lt c (hold c hc).1
    · intro c hc
      rw [running?_assign, if_neg (fun e => (hold c hc).2 e.1)]
      exact h.idle_free c (hold c hc).1

theorem Sound.complete (h : s.Sound) {irq : UInt32} {done : Completed} (hc : s.complete irq = .ok (done, t)) :
    t.Sound := by
  obtain ⟨-, hr, ⟨next, rest, hp, -, rfl⟩ | ⟨hp, -, rfl⟩⟩ := complete_cases hc
  · -- something waits, so no channel is idle
    have hno : ∀ c, s.idle.getLsbD c = true → False := fun c hi => by simp [h.idle_first c hi] at hp
    exact ⟨by simpa using h.capacity_le, fun c hi => (hno c hi).elim, fun c hi => (hno c hi).elim,
      fun c hi => (hno c hi).elim⟩
  · have hlt := lt_capacity_of_running? hr
    have hnew : ∀ c, (Bits.insert s.idle done.channel).getLsbD c = true →
        c = done.channel ∨ s.idle.getLsbD c = true := by
      intro c hi
      simp only [Bits.getLsbD_insert, Bool.or_eq_true, decide_eq_true_eq] at hi
      exact hi.symm.imp And.left id
    refine ⟨by simpa using h.capacity_le, ?_, ?_, fun _ _ => hp⟩
    · intro c hi
      rw [capacity_assign, capacity_mk]
      rcases hnew c hi with rfl | hi
      · exact hlt
      · exact h.idle_lt c hi
    · intro c hi
      rw [running?_assign]
      split
      · rfl
      · rename_i hne
        rcases hnew c hi with rfl | hi
        · exact absurd ⟨rfl, hlt⟩ hne
        · exact h.idle_free c hi

theorem running?_reset (s : Scheduler) (c : Nat) : s.reset.2.running? c = none := by
  simp only [running?, reset, List.getElem?_map]
  cases s.channels[c]? <;> rfl

@[simp] theorem capacity_reset (s : Scheduler) : s.reset.2.capacity = s.capacity := by
  simp [capacity, reset]

theorem Sound.reset (h : s.Sound) : s.reset.2.Sound := by
  refine ⟨by simpa using h.capacity_le, ?_, fun c _ => running?_reset s c, fun _ _ => rfl⟩
  intro c hc
  simp only [Scheduler.reset, Bits.getLsbD_mask, decide_eq_true_eq] at hc
  simpa using hc.1

theorem Sound.of_sameLoad (h : s.Sound) (e : SameLoad s t) : t.Sound where
  capacity_le := e.capacity ▸ h.capacity_le
  idle_lt c hc := e.capacity ▸ h.idle_lt c (e.idle ▸ hc)
  idle_free c hc := (e.running? c).trans (h.idle_free c (e.idle ▸ hc))
  idle_first c hc := e.pending.trans (h.idle_first c (e.idle ▸ hc))

@[simp] theorem capacity_submit (s : Scheduler) (r : Request) : (s.submit r).2.capacity = s.capacity := by
  cases hl : Bits.lowest? s.idle with
  | none => rw [submit_of_busy hl]; rfl
  | some ch => rw [submit_of_idle hl]; simp

theorem capacity_complete {irq : UInt32} {done : Completed} (hc : s.complete irq = .ok (done, t)) :
    t.capacity = s.capacity := by
  obtain ⟨-, -, ⟨next, rest, -, -, rfl⟩ | ⟨-, -, rfl⟩⟩ := complete_cases hc
  · simp
  · simp

/-! ## Who is outside -/

theorem isOutside_fresh_iff (channels : Nat) (idle : BitVec 32) (c : Nat) :
    (fresh channels idle).IsOutside c ↔ c < min channels 32 ∧ idle.getLsbD c = false := by
  simp only [IsOutside, running?_fresh, and_true]
  simp only [fresh, capacity, maxDmaChannels, List.length_replicate, BitVec.getLsbD_and, Bits.getLsbD_mask,
    Bool.and_eq_false_iff, decide_eq_false_iff_not]
  constructor
  · rintro ⟨hlt, hi | hi⟩
    · exact ⟨hlt, hi⟩
    · omega
  · rintro ⟨hlt, hi⟩
    exact ⟨hlt, .inl hi⟩

/-- a request never goes to a channel outside the pool -/
theorem isOutside_submit (h : s.Sound) (r : Request) (c : Nat) : (s.submit r).2.IsOutside c ↔ s.IsOutside c := by
  cases hl : Bits.lowest? s.idle with
  | none => rw [submit_of_busy hl]; exact Iff.rfl
  | some ch =>
    rw [submit_of_idle hl]
    have hch : s.idle.getLsbD ch = true := ((Bits.lowest?_eq_some_iff _ _).1 hl).1
    have hlt := h.idle_lt ch hch
    simp only [IsOutside, capacity_assign, capacity_mk, idle_assign, running?_assign, running?_mk, Bits.getLsbD_erase]
    by_cases hc : c = ch
    · subst hc
      simp [hlt, hch]
    · simp [hc]

/-- the channel of a completion carried out a request before, and is idle or carries out another one after -/
theorem isOutside_complete (h : s.Sound) {irq : UInt32} {done : Completed} (hc : s.complete irq = .ok (done, t))
    (c : Nat) : t.IsOutside c ↔ s.IsOutside c := by
  obtain ⟨-, hr, hcase⟩ := complete_cases hc
  have hlt := lt_capacity_of_running? hr
  have hbit : done.channel < 32 := Nat.lt_of_lt_of_le hlt h.capacity_le
  rcases hcase with ⟨next, rest, -, -, rfl⟩ | ⟨-, -, rfl⟩
  · simp only [IsOutside, capacity_assign, capacity_mk, idle_assign, running?_assign, running?_mk]
    by_cases he : c = done.channel
    · subst he
      simp [hlt, hr]
    · simp [he]
  · simp only [IsOutside, capacity_assign, capacity_mk, idle_assign, running?_assign, running?_mk, Bits.getLsbD_insert]
    by_cases he : c = done.channel
    · subst he
      simp [hr, hbit]
    · simp [he]

theorem isOutside_of_sameLoad (e : SameLoad s t) (c : Nat) : t.IsOutside c ↔ s.IsOutside c := by
  simp only [IsOutside, e.capacity, e.idle, e.running?]

theorem not_isOutside_reset (h : s.Sound) (c : Nat) : ¬ s.reset.2.IsOutside c := by
  rintro ⟨hlt, hi, -⟩
  have hle := h.capacity_le
  rw [capacity_reset] at hlt
  simp only [reset, Bits.getLsbD_mask, decide_eq_false_iff_not] at hi
  omega

/-! ## The census of channels -/

theorem countP_range_eq_of_le {p : Nat → Bool} {m n : Nat} (hmn : m ≤ n) (h : ∀ i, p i = true → i < m) :
    (List.range n).countP p = (List.range m).countP p := by
  obtain ⟨k, rfl⟩ := Nat.exists_eq_add_of_le hmn
  rw [List.range_add, List.countP_append, Nat.add_eq_left, List.countP_eq_zero]
  intro i hi hp
  obtain ⟨j, -, rfl⟩ := List.mem_map.1 hi
  have := h _ hp
  omega

theorem countP_add_of_partition {p q r : Nat → Bool} {l : List Nat}
    (h : ∀ i ∈ l, (p i).toNat + (q i).toNat + (r i).toNat = 1) : l.countP p + l.countP q + l.countP r = l.length := by
  induction l with
  | nil => rfl
  | cons i l ih =>
    have hi := h i List.mem_cons_self
    have hl := ih fun j hj => h j (List.mem_cons_of_mem i hj)
    have hc : ∀ f : Nat → Bool, (i :: l).countP f = l.countP f + (f i).toNat := fun f => by
      rw [List.countP_cons]; cases f i <;> rfl
    rw [hc, hc, hc, List.length_cons]
    omega

theorem length_running (s : Scheduler) :
    s.running.length = (List.range s.capacity).countP fun c => (s.running? c).isSome := by
  have hmap : s.channels.map (fun ch => ch.inProgress.isSome) =
      (List.range s.capacity).map fun c => (s.running? c).isSome := by
    refine List.ext_getElem (by simp [capacity]) fun c h₁ h₂ => ?_
    have hc : c < s.channels.length := by simpa using h₁
    simp [running?, hc]
  have := congrArg (List.countP id) hmap
  rw [List.countP_map, List.countP_map] at this
  exact List.length_filterMap_eq_countP.trans this

/-- every channel is idle, carries out a request, or is outside the pool, and no channel is two of these -/
theorem Sound.census (h : s.Sound) :
    s.idle.cpop.toNat + s.running.length + (List.range s.capacity).countP (fun c => decide (s.IsOutside c)) =
      s.capacity := by
  rw [Bits.toNat_cpop, countP_range_eq_of_le h.capacity_le h.idle_lt, length_running]
  refine (countP_add_of_partition fun c hc => ?_).trans List.length_range
  have hlt : c < s.capacity := List.mem_range.1 hc
  have hfree := h.idle_free c
  cases hi : s.idle.getLsbD c with
  | true => simp [IsOutside, hi, hfree hi]
  | false => cases hr : s.running? c <;> simp [IsOutside, hi, hr, hlt]

end Scheduler

/-! ## Runs -/

namespace TransferLedger

@[simp] theorem scheduler_newRequest (l : TransferLedger) (descriptor : TransferDescriptor) (cookie : Cookie)
    (watched : Bool) : (l.newRequest descriptor cookie watched).2.2.scheduler = l.scheduler := by
  cases watched <;> rfl

theorem sameLoad_enable (l : TransferLedger) (channel : Nat) (irq : UInt32) :
    Scheduler.SameLoad l.scheduler (l.enable channel irq).2.scheduler := by
  simp only [enable]
  split
  · exact .refl _
  · rename_i h
    exact Scheduler.sameLoad_of_enable h

theorem sameLoad_bindInterrupts (l : TransferLedger) (base : UInt32) :
    Scheduler.SameLoad l.scheduler (l.bindInterrupts base).2.scheduler :=
  Scheduler.sameLoad_bindInterrupts base l.scheduler

end TransferLedger

/-- the books are sound, and the channels outside the pool are those of `s₀` until a reset takes them in -/
structure InStep (s₀ : Scheduler) (x : TransferLedger × History) : Prop where
  sound : x.1.scheduler.Sound
  capacity : x.1.scheduler.capacity = s₀.capacity
  outside : ∀ c, x.1.scheduler.IsOutside c ↔ s₀.IsOutside c ∧ x.2.dropped = []

theorem InStep.of_sameLoad {s₀ : Scheduler} {l m : TransferLedger} {h : History} (i : InStep s₀ (l, h))
    (e : Scheduler.SameLoad l.scheduler m.scheduler) : InStep s₀ (m, h) where
  sound := i.sound.of_sameLoad e
  capacity := e.capacity.trans i.capacity
  outside c := (Scheduler.isOutside_of_sameLoad e c).trans (i.outside c)

theorem inStep_of_posts {s₀ : Scheduler} (x y : TransferLedger × History) (p : Posts x y) (i : InStep s₀ x) :
    InStep s₀ y := by
  cases p with
  | create l h descriptor cookie watched =>
    have hs := l.scheduler_newRequest descriptor cookie watched
    exact ⟨hs ▸ i.sound, hs ▸ i.capacity, hs ▸ i.outside⟩
  | @submit l h r _ =>
    exact ⟨i.sound.submit r, (Scheduler.capacity_submit l.scheduler r).trans i.capacity,
      fun c => (Scheduler.isOutside_submit i.sound r c).trans (i.outside c)⟩
  | retire h hd =>
    obtain ⟨hc, -, -⟩ := TransferLedger.retire_cases hd
    exact ⟨i.sound.complete hc, (Scheduler.capacity_complete hc).trans i.capacity,
      fun c => (Scheduler.isOutside_complete i.sound hc c).trans (i.outside c)⟩
  | enable l h channel irq => exact i.of_sameLoad (l.sameLoad_enable channel irq)
  | bind l h base => exact i.of_sameLoad (l.sameLoad_bindInterrupts base)
  | reset l h =>
    refine ⟨i.sound.reset, (Scheduler.capacity_reset l.scheduler).trans i.capacity, fun c => ?_⟩
    have hno := Scheduler.not_isOutside_reset i.sound c
    exact ⟨fun hc => (hno hc).elim, fun hc => by simp [History.drop] at hc⟩

namespace Client

variable {ε : Type} [TransferEngine ε]

/-- the list of drops tells whether there was a reset -/
theorem dropped_run_eq_nil_iff (c : Client ε) (ops : List Op) :
    (c.run ops).dropped = [] ↔ c.dropped = [] ∧ Op.reset ∉ ops := by
  have hstep : ∀ (c : Client ε) (op : Op), (c.step op).dropped = [] ↔ c.dropped = [] ∧ op ≠ .reset := by
    intro c op
    cases op with
    | submit r => simp only [step]; split <;> simp [History.handIn, History.see]
    | _ => simp [step, History.make, History.see, History.drop]
  induction ops generalizing c with
  | nil => simp [run]
  | cons op ops ih =>
    calc (c.run (op :: ops)).dropped = [] ↔ (c.step op).dropped = [] ∧ Op.reset ∉ ops := ih (c.step op)
      _ ↔ c.dropped = [] ∧ Op.reset ∉ op :: ops := by
        rw [hstep, List.mem_cons, not_or, and_assoc, ne_comm]

omit [TransferEngine ε] in
theorem inStep_fresh (channels : Nat) (idle : BitVec 32) (engine : ε) (tickets : TicketCounter)
    (completions : CompletionTable) :
    InStep (.fresh channels idle) (fresh channels idle engine tickets completions).books :=
  ⟨Scheduler.sound_fresh channels idle, rfl, fun _ => by simp [books, fresh]⟩

theorem inStep_run (channels : Nat) (idle : BitVec 32) (engine : ε) (tickets : TicketCounter)
    (completions : CompletionTable) (ops : List Op) :
    InStep (.fresh channels idle) ((fresh channels idle engine tickets completions).run ops).books :=
  run_induction inStep_of_posts _ ops (inStep_fresh channels idle engine tickets completions)

/-- **The pool stays in step.** After every run of a client of a new unit, whatever its engine does:
- a set bit of the idle map is a channel, its slot is empty, and then nothing waits;
- a channel with its bit clear and its slot empty is one whose bit was clear at the start, and stays so until a reset;
- a submission and a completion (of any scheduler, also in the middle of an operation) find their channel in the table;
- idle channels, channels that carry out a request, and those that never joined the pool make up all channels. -/
theorem pool_in_step (channels : Nat) (idle : BitVec 32) (engine : ε) (tickets : TicketCounter)
    (completions : CompletionTable) (ops : List Op) :
    let s := ((fresh channels idle engine tickets completions).run ops).scheduler
    s.capacity = min channels 32 ∧
    (∀ c, s.capacity ≤ c → s.idle.getLsbD c = false) ∧
    (∀ c, s.idle.getLsbD c = true → s.running? c = none) ∧
    (s.idle ≠ 0#32 → s.pending = []) ∧
    (∀ c < s.capacity, s.idle.getLsbD c = false ∧ s.running? c = none ↔ idle.getLsbD c = false ∧ Op.reset ∉ ops) ∧
    (∀ c, Bits.lowest? s.idle = some c → c < s.channels.length) ∧
    (∀ (t : Scheduler) irq c, t.channelOf? irq = some c → c < t.channels.length) ∧
    s.status.idle.cpop.toNat + s.status.inFlight +
        (if Op.reset ∈ ops then 0 else (List.range s.capacity).countP fun c => !idle.getLsbD c) =
      s.status.channels := by
  intro s
  obtain ⟨hsound, hcap, hout⟩ := inStep_run channels idle engine tickets completions ops
  have hfresh : (Scheduler.fresh channels idle).capacity = min channels 32 := by
    simp [Scheduler.fresh, Scheduler.capacity, maxDmaChannels]
  have hmin : s.capacity = min channels 32 := hcap.trans hfresh
  have hreset : ((fresh channels idle engine tickets completions).run ops).dropped = [] ↔ Op.reset ∉ ops := by
    rw [dropped_run_eq_nil_iff]
    exact and_iff_right rfl
  have houtside : ∀ c < s.capacity, s.IsOutside c ↔ idle.getLsbD c = false ∧ Op.reset ∉ ops := by
    intro c hc
    rw [show s.IsOutside c ↔ _ from hout c, Scheduler.isOutside_fresh_iff]
    constructor
    · rintro ⟨⟨-, hi⟩, hd⟩
      exact ⟨hi, hreset.1 hd⟩
    · rintro ⟨hi, hr⟩
      exact ⟨⟨hmin ▸ hc, hi⟩, hreset.2 hr⟩
  refine ⟨hmin, fun c hc => ?_, hsound.idle_free, fun hne => ?_, fun c hc => ?_, fun c hc => ?_,
    fun _ _ _ hc => Scheduler.channelOf?_lt hc, ?_⟩
  · have hlt := hsound.idle_lt c
    cases hi : s.idle.getLsbD c with
    | false => rfl
    | true => exact absurd hc (Nat.not_le.2 (hlt hi))
  · cases hl : Bits.lowest? s.idle with
    | none => exact absurd ((Bits.lowest?_eq_none_iff _).1 hl) hne
    | some c => exact (hsound.of_lowest? hl).2.2
  · rw [← houtside c hc]
    exact ⟨fun h => ⟨hc, h⟩, And.right⟩
  · exact (hsound.of_lowest? hc).1
  · have hcensus := hsound.census
    rw [← Scheduler.inFlightCount_eq] at hcensus
    have hnever : (List.range s.capacity).countP (fun c => decide (s.IsOutside c)) =
        if Op.reset ∈ ops then 0 else (List.range s.capacity).countP fun c => !idle.getLsbD c := by
      split
      · rename_i hr
        refine List.countP_eq_zero.2 fun c hc => ?_
        simp [houtside c (List.mem_range.1 hc), hr]
      · rename_i hr
        refine List.countP_congr fun c hc => ?_
        simp [houtside c (List.mem_range.1 hc), hr]
    rw [← hnever]
    exact hcensus

end Client
end BoardDriver
