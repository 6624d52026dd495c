/-
Channels and the interrupts they are bound to.

A scheduler whose channels are bound in one go, channel `c` to interrupt `base + c`, stays bound like that: requests
come and go, and a reset drops them, but none of this touches a binding.

- `IsBoundFrom.channelOf?_eq_some_iff`: which interrupt belongs to which channel;
- `isBoundFrom_bindInterrupts`: binding all channels in one go, if it succeeds;
- `bindInterrupts_fresh`: when it succeeds, on channels that have not been bound before;
- `IsBoundFrom.submit`, `IsBoundFrom.complete`, `IsBoundFrom.reset`: it stays so;
- `Unshared.enable_cases`: what binding one channel can come to;
- `Client.unshared_run`: however channels are bound, no two of them are ever bound to one interrupt.
-/
import BoardDriver.Proofs.ChannelPool

namespace BoardDriver

/-- adding a number below 2 ^ 32 without a carry -/
theorem toNat_add_ofNat {base : UInt32} {n : Nat} (h : base.toNat + n < 2 ^ 32) :
    (base + UInt32.ofNat n).toNat = base.toNat + n := by
  rw [UInt32.toNat_add, UInt32.toNat_ofNat']
  omega

namespace Scheduler

variable {s t : Scheduler}

def bindings (s : Scheduler) : List (Option UInt32) := s.channels.map Channel.irq

theorem length_bindings (s : Scheduler) : s.bindings.length = s.capacity := by
  simp [bindings, capacity]

theorem channelOf?_eq (s : Scheduler) (irq : UInt32) : s.channelOf? irq = s.bindings.findIdx? (· == some irq) := by
  simp only [channelOf?, bindings, List.findIdx?_map]
  rfl

theorem bindings_enable {c : Nat} {irq : UInt32} (h : s.enable c irq = .ok t) :
    c < s.capacity ∧ t.bindings = s.bindings.set c (some irq) := by
  simp only [enable] at h
  split at h
  · cases h
  · split at h
    · rename_i hc
      cases h
      refine ⟨hc, List.ext_getElem? fun i => ?_⟩
      simp only [bindings, modifyChannel, List.getElem?_map, List.getElem?_modify, List.getElem?_set, List.length_map]
      by_cases hi : c = i
      · subst hi
        simp [show c < s.channels.length from hc]
      · simp [hi]
    · cases h

@[simp] theorem bindings_assign (s : Scheduler) (c : Nat) (r : Option Request) :
    (s.assign c r).bindings = s.bindings := by
  refine List.ext_getElem? fun i => ?_
  simp only [bindings, assign, modifyChannel, List.getElem?_map, List.getElem?_modify]
  cases s.channels[i]? with
  | none => rfl
  | some ch => simp only [Option.map_some]; split <;> rfl

theorem bindings_submit (s : Scheduler) (r : Request) : (s.submit r).2.bindings = s.bindings := by
  cases hl : Bits.lowest? s.idle with
  | none => rw [submit_of_busy hl]; rfl
  | some ch => rw [submit_of_idle hl, bindings_assign]; rfl

theorem bindings_complete {irq : UInt32} {done : Completed} (h : s.complete irq = .ok (done, t)) :
    t.bindings = s.bindings := by
  obtain ⟨-, -, ⟨next, rest, -, -, rfl⟩ | ⟨-, -, rfl⟩⟩ := complete_cases h
  · exact bindings_assign _ _ _
  · exact bindings_assign _ _ _

theorem bindings_reset (s : Scheduler) : s.reset.2.bindings = s.bindings := by
  simp [bindings, reset]

/-! ## Channels bound in one go -/

/-- channel `c` is bound to interrupt `base + c` -/
structure IsBoundFrom (base : UInt32) (s : Scheduler) : Prop where
  fits : base.toNat + s.capacity ≤ 2 ^ 32
  bound : s.bindings = (List.range s.capacity).map fun c => some (base + UInt32.ofNat c)

namespace IsBoundFrom

variable {base : UInt32}

theorem of_bindings (b : IsBoundFrom base s) (h : t.bindings = s.bindings) : IsBoundFrom base t := by
  have hcap : t.capacity = s.capacity := by rw [← length_bindings, h, length_bindings]
  exact ⟨hcap ▸ b.fits, by rw [h, hcap, b.bound]⟩

theorem submit (b : IsBoundFrom base s) (r : Request) : IsBoundFrom base (s.submit r).2 :=
  b.of_bindings (bindings_submit s r)

theorem complete (b : IsBoundFrom base s) {irq : UInt32} {done : Completed} (h : s.complete irq = .ok (done, t)) :
    IsBoundFrom base t :=
  b.of_bindings (bindings_complete h)

theorem reset (b : IsBoundFrom base s) : IsBoundFrom base s.reset.2 :=
  b.of_bindings (bindings_reset s)

theorem toNat_irq (b : IsBoundFrom base s) {c : Nat} (hc : c < s.capacity) :
    (base + UInt32.ofNat c).toNat = base.toNat + c :=
  toNat_add_ofNat (Nat.lt_of_lt_of_le (Nat.add_lt_add_left hc _) b.fits)

/-- an interrupt belongs to the channel as far above channel 0 as it is above the first interrupt -/
theorem channelOf?_eq_some_iff (b : IsBoundFrom base s) (irq : UInt32) (c : Nat) :
    s.channelOf? irq = some c ↔ c < s.capacity ∧ irq = base + UInt32.ofNat c := by
  rw [channelOf?_eq, List.findIdx?_eq_some_iff_getElem]
  simp only [b.bound, List.length_map, List.length_range, List.getElem_map, List.getElem_range, beq_iff_eq,
    Option.some.injEq, exists_prop]
  refine and_congr_right fun hc => ⟨fun h => h.1.symm, fun h => ⟨h.symm, fun j hj heq => ?_⟩⟩
  have hnat := congrArg UInt32.toNat (heq.trans h)
  rw [b.toNat_irq (Nat.lt_trans hj hc), b.toNat_irq hc] at hnat
  omega

end IsBoundFrom

theorem bindFrom_bindings (base : UInt32) (c : Nat) {count : Nat} (hs : c + count ≤ s.capacity)
    (hfit : base.toNat + c ≤ 2 ^ 32) (h : (bindFrom base c count s).1 = .ok ()) :
    base.toNat + (c + count) ≤ 2 ^ 32 ∧
    ∀ i, (bindFrom base c count s).2.bindings[i]? =
      if c ≤ i ∧ i < c + count then some (some (base + UInt32.ofNat i)) else s.bindings[i]? := by
  induction count generalizing c s with
  | zero =>
    refine ⟨hfit, fun i => ?_⟩
    rw [if_neg (by omega)]
    rfl
  | succ count ih =>
    simp only [bindFrom] at h ⊢
    split at h
    · rename_i hlt
      simp only [if_pos hlt]
      split at h
      · rename_i t ht
        obtain ⟨hc, hbind⟩ := bindings_enable ht
        have hcap : t.capacity = s.capacity := by rw [← length_bindings, hbind, List.length_set, length_bindings]
        have hnext : base.toNat + (c + 1) ≤ 2 ^ 32 := Nat.succ_le_of_lt hlt
        obtain ⟨hfits, hget⟩ := ih (c + 1) (by omega) hnext h
        refine ⟨by omega, fun i => ?_⟩
        rw [hget i, hbind, List.getElem?_set, length_bindings]
        by_cases hi : c = i
        · subst hi
          simp [hc]
        · rw [if_neg hi]
          refine if_congr ?_ rfl rfl
          omega
      · cases h
    · cases h

/-- binding all channels in one go, if it succeeds -/
theorem isBoundFrom_bindInterrupts {base : UInt32} (h : (s.bindInterrupts base).1 = .ok ()) :
    IsBoundFrom base (s.bindInterrupts base).2 := by
  have hbase := base.toNat_lt
  obtain ⟨hfits, hget⟩ := bindFrom_bindings base 0 (by omega) (by omega) h
  have hcap : (s.bindInterrupts base).2.capacity = s.capacity := (sameLoad_bindInterrupts base s).capacity
  refine ⟨by omega, List.ext_getElem? fun i => ?_⟩
  rw [hcap, List.getElem?_map]
  refine (hget i).trans ?_
  by_cases hi : i < s.capacity
  · simp [hi]
  · rw [if_neg (by omega), List.getElem?_eq_none (by rw [length_bindings]; omega),
      List.getElem?_eq_none (by rw [List.length_range]; omega)]
    rfl

/-! ## Whether channels can be bound in one go -/

/-- an interrupt that no channel is bound to can be bound to any channel -/
theorem enable_of_unbound {c : Nat} {irq : UInt32} (hc : c < s.capacity)
    (hfree : ∀ i : Nat, s.bindings[i]? ≠ some (some irq)) :
    ∃ t, s.enable c irq = .ok t ∧ t.bindings = s.bindings.set c (some irq) := by
  have hnone : s.channelOf? irq = none := by
    rw [channelOf?_eq, List.findIdx?_eq_none_iff]
    intro x hx
    obtain ⟨i, hi⟩ := List.mem_iff_getElem?.1 hx
    rw [beq_eq_false_iff_ne]
    rintro rfl
    exact hfree i hi
  have henable : s.enable c irq = .ok (s.modifyChannel c fun ch => { ch with irq := some irq }) := by
    simp only [enable, hnone, Option.filter_none, if_pos hc]
  exact ⟨_, henable, (bindings_enable henable).2⟩

/-- channels below `c` have been bound in one go, the others not at all: the rest can be bound as well, if there are
enough interrupts left -/
theorem bindFrom_answer (base : UInt32) (c : Nat) {count : Nat} (hs : c + count = s.capacity)
    (hfit : base.toNat + c ≤ 2 ^ 32)
    (hbelow : ∀ (i : Nat) (irq : UInt32), s.bindings[i]? = some (some irq) → i < c ∧ irq = base + UInt32.ofNat i) :
    (bindFrom base c count s).1 =
      if base.toNat + (c + count) ≤ 2 ^ 32 then .ok () else .error (.invalidArgument .irqOverflow) := by
  induction count generalizing c s with
  | zero =>
    rw [Nat.add_zero, if_pos hfit]
    rfl
  | succ count ih =>
    simp only [bindFrom]
    by_cases hlt : base.toNat + c < UInt32.size
    · have hc : c < s.capacity := by omega
      have hfree : ∀ i : Nat, s.bindings[i]? ≠ some (some (base + UInt32.ofNat c)) := by
        intro i hi
        obtain ⟨hic, hirq⟩ := hbelow i _ hi
        have hnat := congrArg UInt32.toNat hirq
        rw [toNat_add_ofNat hlt, toNat_add_ofNat (Nat.lt_trans (Nat.add_lt_add_left hic _) hlt)] at hnat
        omega
      obtain ⟨t, ht, hbind⟩ := enable_of_unbound hc hfree
      have hcap : t.capacity = s.capacity := by rw [← length_bindings, hbind, List.length_set, length_bindings]
      have hbelow' : ∀ (i : Nat) (irq : UInt32), t.bindings[i]? = some (some irq) →
          i < c + 1 ∧ irq = base + UInt32.ofNat i := by
        intro i irq hi
        rw [hbind, List.getElem?_set] at hi
        split at hi
        · rename_i hsame
          split at hi
          · cases hi
            exact ⟨by omega, by rw [hsame]⟩
          · cases hi
        · obtain ⟨hic, hirq⟩ := hbelow i irq hi
          exact ⟨by omega, hirq⟩
      simp only [if_pos hlt, ht]
      rw [ih (c + 1) (by omega) hlt hbelow', Nat.add_assoc c 1 count, Nat.add_comm 1 count]
    · rw [if_neg hlt, if_neg]
      have hsize : UInt32.size = 2 ^ 32 := rfl
      omega

/-- channels that were never bound can be bound in one go if the last one gets an interrupt -/
theorem bindInterrupts_fresh (channels : Nat) (idle : BitVec 32) (base : UInt32) :
    ((fresh channels idle).bindInterrupts base).1 =
      if base.toNat + min channels 32 ≤ 2 ^ 32 then .ok () else .error (.invalidArgument .irqOverflow) := by
  have hcap : (fresh channels idle).capacity = min channels 32 := by simp [fresh, capacity, maxDmaChannels]
  have hfit : base.toNat + 0 ≤ 2 ^ 32 := Nat.le_of_lt base.toNat_lt
  have hbelow : ∀ (i : Nat) (irq : UInt32), (fresh channels idle).bindings[i]? = some (some irq) →
      i < 0 ∧ irq = base + UInt32.ofNat i := by
    intro i irq hi
    simp only [fresh, bindings, List.map_replicate, List.getElem?_replicate] at hi
    split at hi <;> cases hi
  have hanswer := bindFrom_answer base 0 (Nat.zero_add _) hfit hbelow
  rw [Nat.zero_add, hcap] at hanswer
  rw [bindInterrupts, hcap]
  exact hanswer

/-! ## No two channels share an interrupt -/

/-- no two channels are bound to one interrupt -/
def Unshared (s : Scheduler) : Prop :=
  ∀ (i j : Nat) (irq : UInt32), s.bindings[i]? = some (some irq) → s.bindings[j]? = some (some irq) → i = j

theorem bindings_of_channelOf? {irq : UInt32} {c : Nat} (h : s.channelOf? irq = some c) :
    s.bindings[c]? = some (some irq) := by
  rw [channelOf?_eq, List.findIdx?_eq_some_iff_getElem] at h
  obtain ⟨hlt, hirq, -⟩ := h
  rw [List.getElem?_eq_getElem hlt, eq_of_beq hirq]

/-- an interrupt that a channel is bound to belongs to some channel -/
theorem exists_channelOf? {irq : UInt32} {c : Nat} (h : s.bindings[c]? = some (some irq)) :
    ∃ other, s.channelOf? irq = some other := by
  rw [← Option.isSome_iff_exists, channelOf?_eq, List.findIdx?_isSome, List.any_eq_true]
  exact ⟨some irq, List.mem_of_getElem? h, beq_self_eq_true _⟩

namespace Unshared

/-- then an interrupt belongs to the channel that is bound to it -/
theorem channelOf?_eq_some_iff (h : s.Unshared) (irq : UInt32) (c : Nat) :
    s.channelOf? irq = some c ↔ s.bindings[c]? = some (some irq) := by
  refine ⟨bindings_of_channelOf?, fun hc => ?_⟩
  obtain ⟨other, hother⟩ := exists_channelOf? hc
  rw [hother, h other c irq (bindings_of_channelOf? hother) hc]

theorem of_bindings (h : s.Unshared) (e : t.bindings = s.bindings) : t.Unshared := by
  intro i j irq hi hj
  rw [e] at hi hj
  exact h i j irq hi hj

/-- a channel is refused an interrupt that another one holds, and is bound to it otherwise -/
theorem enable_cases (h : s.Unshared) {c : Nat} (hc : c < s.capacity) (irq : UInt32) :
    (∃ other, other ≠ c ∧ s.bindings[other]? = some (some irq) ∧
        s.enable c irq = .error (.invalidArgument (.irqTaken irq other))) ∨
      ((∀ other : Nat, s.bindings[other]? = some (some irq) → other = c) ∧
        ∃ t, s.enable c irq = .ok t ∧ t.bindings = s.bindings.set c (some irq)) := by
  cases howner : (s.channelOf? irq).filter (fun other => other != c) with
  | some other =>
    left
    obtain ⟨hother, hne⟩ := Option.filter_eq_some_iff.1 howner
    refine ⟨other, bne_iff_ne.1 hne, bindings_of_channelOf? hother, ?_⟩
    simp only [Scheduler.enable, howner]
  | none =>
    right
    have henable : s.enable c irq = .ok (s.modifyChannel c fun ch => { ch with irq := some irq }) := by
      simp only [Scheduler.enable, howner, if_pos hc]
    refine ⟨?_, _, henable, (bindings_enable henable).2⟩
    intro other hother
    by_contra hne
    have hfilter := Option.filter_eq_none_iff.1 howner other ((h.channelOf?_eq_some_iff irq other).2 hother)
    exact hfilter (bne_iff_ne.2 hne)

/-- so binding a channel keeps it -/
theorem enable (h : s.Unshared) {c : Nat} {irq : UInt32} (ht : s.enable c irq = .ok t) : t.Unshared := by
  obtain ⟨hc, hbind⟩ := bindings_enable ht
  have hother : ∀ i : Nat, s.bindings[i]? = some (some irq) → i = c := by
    rcases h.enable_cases hc irq with ⟨_, -, -, herror⟩ | ⟨hown, -⟩
    · rw [herror] at ht
      cases ht
    · exact hown
  have hcases : ∀ (i : Nat) (q : UInt32), t.bindings[i]? = some (some q) →
      i = c ∧ q = irq ∨ i ≠ c ∧ s.bindings[i]? = some (some q) := by
    intro i q hi
    rw [hbind, List.getElem?_set] at hi
    split at hi
    · rename_i hsame
      split at hi
      · cases hi
        exact .inl ⟨hsame.symm, rfl⟩
      · cases hi
    · rename_i hne
      exact .inr ⟨Ne.symm hne, hi⟩
  intro i j q hi hj
  rcases hcases i q hi with ⟨rfl, rfl⟩ | ⟨hic, hi⟩ <;> rcases hcases j q hj with ⟨rfl, hq⟩ | ⟨hjc, hj⟩
  · rfl
  · exact absurd (hother j hj) hjc
  · subst hq
    exact absurd (hother i hi) hic
  · exact h i j q hi hj

theorem bindFrom (h : s.Unshared) (base : UInt32) (c count : Nat) : (bindFrom base c count s).2.Unshared := by
  induction count generalizing c s with
  | zero => exact h
  | succ count ih =>
    simp only [Scheduler.bindFrom]
    split
    · split
      · rename_i t ht
        exact ih (h.enable ht) (c + 1)
      · exact h
    · exact h

end Unshared

theorem unshared_fresh (channels : Nat) (idle : BitVec 32) : (fresh channels idle).Unshared := by
  intro i j irq hi
  simp only [fresh, bindings, List.map_replicate, List.getElem?_replicate] at hi
  split at hi <;> cases hi

end Scheduler

theorem unshared_of_posts (x y : TransferLedger × History) (p : Posts x y) (h : x.1.scheduler.Unshared) :
    y.1.scheduler.Unshared := by
  cases p with
  | create l h' descriptor cookie watched => exact (l.scheduler_newRequest descriptor cookie watched).symm ▸ h
  | @submit l h' r _ => exact h.of_bindings (Scheduler.bindings_submit l.scheduler r)
  | retire h' hd => exact h.of_bindings (Scheduler.bindings_complete (TransferLedger.retire_cases hd).1)
  | enable l h' channel irq =>
    simp only [TransferLedger.enable]
    split
    · exact h
    · rename_i ht
      exact h.enable ht
  | bind l h' base => exact h.bindFrom base 0 l.scheduler.capacity
  | reset l h' => exact h.of_bindings (Scheduler.bindings_reset l.scheduler)

/-- no two channels are bound to one interrupt, after any run of a client of a new unit -/
theorem Client.unshared_run {ε : Type} [TransferEngine ε] (channels : Nat) (idle : BitVec 32) (engine : ε)
    (tickets : TicketCounter) (completions : CompletionTable) (ops : List Client.Op) :
    ((Client.fresh channels idle engine tickets completions).run ops).scheduler.Unshared :=
  Client.run_induction (P := fun x => x.1.scheduler.Unshared) unshared_of_posts _ ops
    (Scheduler.unshared_fresh channels idle)

end BoardDriver
