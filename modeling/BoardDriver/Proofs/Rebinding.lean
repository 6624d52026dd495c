/-
Binding all channels in one go when they may be bound already.

The channels are rebound one by one, and each is checked against a table of which the lower part has been rebound and
the upper part has not. The lower part never stands in the way, as the interrupts given out there are all below the next
one. So a channel is refused for what the table was at the start: its interrupt is out of range, or a later channel
holds it. Moving a block of channels down is fine, moving it up by less than its length is not.

- `Refuses`: why a channel is refused, and what is answered then;
- `Rebound`: the table when the channels below some channel have been rebound;
- `Rebound.enable`: what binding the next channel can come to;
- `bindFrom_cases`, `bindInterrupts_cases`: what binding all of them can come to;
- `Client.bind_interrupts_exact`: so it is in every state that a client can bring a new unit to.
-/
import BoardDriver.Proofs.Binding

namespace BoardDriver

namespace Scheduler

variable {s t : Scheduler} {base : UInt32} {c : Nat}

/-! ## The table on the way -/

/-- why channel `k` cannot be bound to `base + k`, and the error that says so -/
inductive Refuses (base : UInt32) (s : Scheduler) (k : Nat) : Error → Prop
  | overflow : 2 ^ 32 ≤ base.toNat + k → Refuses base s k (.invalidArgument .irqOverflow)
  | taken {later : Nat} {irq : UInt32} : k < later → s.bindings[later]? = some (some irq) →
      irq.toNat = base.toNat + k → Refuses base s k (.invalidArgument (.irqTaken irq later))

/-- the channels of `s` below `c`, and no others, have been bound to `base` plus their index, which makes it `t` -/
structure Rebound (base : UInt32) (c : Nat) (s t : Scheduler) : Prop where
  capacity : t.capacity = s.capacity
  below : ∀ i < c, t.bindings[i]? = some (some (base + UInt32.ofNat i))
  above : ∀ i : Nat, c ≤ i → t.bindings[i]? = s.bindings[i]?

theorem Rebound.refl (base : UInt32) (s : Scheduler) : Rebound base 0 s s :=
  ⟨rfl, fun _ hi => absurd hi (Nat.not_lt_zero _), fun _ _ => rfl⟩

theorem Rebound.succ (h : Rebound base c s t) (hc : c < s.capacity) {u : Scheduler}
    (hu : u.bindings = t.bindings.set c (some (base + UInt32.ofNat c))) : Rebound base (c + 1) s u := by
  refine ⟨?_, fun i hi => ?_, fun i hi => ?_⟩
  · rw [← h.capacity, ← length_bindings, hu, List.length_set, length_bindings]
  · rw [hu]
    by_cases hic : i = c
    · subst hic
      rw [List.getElem?_set_self (by rw [length_bindings, h.capacity]; exact hc)]
    · rw [List.getElem?_set_ne (Ne.symm hic)]
      exact h.below i (by omega)
  · rw [hu, List.getElem?_set_ne (by omega)]
    exact h.above i (by omega)

/-- an interrupt to come is held by a later channel, if by any other than its own -/
theorem Rebound.holder (h : Rebound base c s t) (hfit : base.toNat + c < 2 ^ 32) {other : Nat} (hne : other ≠ c)
    (hother : t.bindings[other]? = some (some (base + UInt32.ofNat c))) :
    c < other ∧ s.bindings[other]? = some (some (base + UInt32.ofNat c)) := by
  rcases Nat.lt_or_gt_of_ne hne with hlt | hgt
  · -- a lower channel has been given a lower interrupt
    rw [h.below other hlt, Option.some.injEq, Option.some.injEq] at hother
    have hnat := congrArg UInt32.toNat hother
    rw [toNat_add_ofNat hfit, toNat_add_ofNat (Nat.lt_trans (Nat.add_lt_add_left hlt _) hfit)] at hnat
    omega
  · exact ⟨hgt, (h.above other (Nat.le_of_lt hgt)).symm.trans hother⟩

/-! ## All channels -/

/-- what a channel can be told when those below it have been rebound -/
theorem Rebound.enable (h : Rebound base c s t) (ht : t.Unshared) (hc : c < s.capacity)
    (hfit : base.toNat + c < 2 ^ 32) :
    (∃ e, t.enable c (base + UInt32.ofNat c) = .error e ∧ Refuses base s c e) ∨
      (∃ u, t.enable c (base + UInt32.ofNat c) = .ok u ∧ Rebound base (c + 1) s u ∧ ∀ e, ¬ Refuses base s c e) := by
  have hirq : (base + UInt32.ofNat c).toNat = base.toNat + c := toNat_add_ofNat hfit
  rcases ht.enable_cases (h.capacity.symm ▸ hc) (base + UInt32.ofNat c) with
    ⟨other, hne, hother, herror⟩ | ⟨hown, u, hok, hu⟩
  · obtain ⟨hlater, hheld⟩ := h.holder hfit hne hother
    exact .inl ⟨_, herror, .taken hlater hheld hirq⟩
  · refine .inr ⟨u, hok, h.succ hc hu, fun e he => ?_⟩
    cases he with
    | overflow hover => omega
    | @taken later irq hlater hheld hnat =>
      have hsame : irq = base + UInt32.ofNat c := UInt32.toNat_inj.1 (hnat.trans hirq.symm)
      have hstill : t.bindings[later]? = some (some (base + UInt32.ofNat c)) := by
        rw [h.above later (Nat.le_of_lt hlater), hheld, hsame]
      have := hown later hstill
      omega

/-- the rest of the channels: all are bound, or those below the first one that is refused. By induction on how many
there are; the table on the way is told by `Rebound`, the refusals by the table at the start. -/
theorem bindFrom_cases {count : Nat} (h : Rebound base c s t) (ht : t.Unshared) (hcount : c + count = s.capacity)
    (hbelow : ∀ i < c, ∀ e, ¬ Refuses base s i e) :
    ((bindFrom base c count t).1 = .ok () ∧ (∀ i < s.capacity, ∀ e, ¬ Refuses base s i e) ∧
        Rebound base s.capacity s (bindFrom base c count t).2) ∨
      (∃ k e, (bindFrom base c count t).1 = .error e ∧ k < s.capacity ∧ Refuses base s k e ∧
        (∀ i < k, ∀ e, ¬ Refuses base s i e) ∧ Rebound base k s (bindFrom base c count t).2) := by
  induction count generalizing c t with
  | zero =>
    obtain rfl : c = s.capacity := hcount
    exact .inl ⟨rfl, hbelow, h⟩
  | succ count ih =>
    have hc : c < s.capacity := by omega
    simp only [bindFrom]
    by_cases hfit : base.toNat + c < UInt32.size
    · rw [if_pos hfit]
      rcases h.enable ht hc hfit with ⟨e, herror, hrefuses⟩ | ⟨u, hok, hu, hfree⟩
      · rw [herror]
        exact .inr ⟨c, e, rfl, hc, hrefuses, hbelow, h⟩
      · rw [hok]
        refine ih hu (ht.enable hok) (by omega) fun i hi e => ?_
        rcases Nat.lt_succ_iff_lt_or_eq.1 hi with hlt | rfl
        · exact hbelow i hlt e
        · exact hfree e
    · rw [if_neg hfit]
      exact .inr ⟨c, _, rfl, hc, .overflow (Nat.le_of_not_lt hfit), hbelow, h⟩

theorem bindInterrupts_cases (hs : s.Unshared) (base : UInt32) :
    ((s.bindInterrupts base).1 = .ok () ∧ (∀ i < s.capacity, ∀ e, ¬ Refuses base s i e) ∧
        Rebound base s.capacity s (s.bindInterrupts base).2) ∨
      (∃ k e, (s.bindInterrupts base).1 = .error e ∧ k < s.capacity ∧ Refuses base s k e ∧
        (∀ i < k, ∀ e, ¬ Refuses base s i e) ∧ Rebound base k s (s.bindInterrupts base).2) :=
  bindFrom_cases (Rebound.refl base s) hs (Nat.zero_add _) fun _ hi => absurd hi (Nat.not_lt_zero _)

/-- no channel is refused if the last one gets an interrupt and no channel is in the way of an earlier one -/
theorem forall_not_refuses_iff (base : UInt32) (s : Scheduler) :
    (∀ i < s.capacity, ∀ e, ¬ Refuses base s i e) ↔
      (s.capacity = 0 ∨ base.toNat + s.capacity - 1 < 2 ^ 32) ∧
        ¬ ∃ (i j : Nat) (irq : UInt32), i < j ∧ s.bindings[j]? = some (some irq) ∧ irq.toNat = base.toNat + i := by
  constructor
  · intro hfree
    constructor
    · by_contra hover
      have hlast : s.capacity - 1 < s.capacity := by omega
      exact hfree _ hlast _ (.overflow (by omega))
    · rintro ⟨i, j, irq, hij, hj, hirq⟩
      have hlt : j < s.bindings.length := (List.getElem?_eq_some_iff.1 hj).1
      rw [length_bindings] at hlt
      exact hfree i (Nat.lt_trans hij hlt) _ (.taken hij hj hirq)
  · rintro ⟨hfits, hclear⟩ i hi e he
    cases he with
    | overflow hover => omega
    | taken hlater hheld hnat => exact hclear ⟨i, _, _, hlater, hheld, hnat⟩

end Scheduler

namespace Client

variable {ε : Type} [TransferEngine ε]

/-- **Bindings are exact.** After every run of a client of a new unit, whatever its engine does, no two channels are
bound to one interrupt, and an interrupt belongs to the channel that is bound to it. Binding all channels in one go then
- succeeds if the last interrupt is in range and no interrupt is held by a later channel than its own, and only then;
- if it succeeds, has bound every channel to `base` plus its index;
- if it fails, has done so with the channels below the first one that is refused, and left the others as they were; the
error says why;
- moves no request and leaves the idle channels as they were, either way. -/
theorem bind_interrupts_exact (channels : Nat) (idle : BitVec 32) (engine : ε) (tickets : TicketCounter)
    (completions : CompletionTable) (ops : List Op) :
    let c := (fresh channels idle engine tickets completions).run ops
    let s := c.scheduler
    (∀ (i j : Nat) (irq : UInt32), s.bindings[i]? = some (some irq) → s.bindings[j]? = some (some irq) → i = j) ∧
    (∀ (irq : UInt32) (channel : Nat), s.channelOf? irq = some channel ↔ s.bindings[channel]? = some (some irq)) ∧
    ∀ base,
      let answer := (c.toTransferLedger.bindInterrupts base).1
      let t := (c.step (.bind base)).scheduler
      (answer = .ok () ↔ (s.capacity = 0 ∨ base.toNat + s.capacity - 1 < 2 ^ 32) ∧
        ¬ ∃ (i j : Nat) (irq : UInt32), i < j ∧ s.bindings[j]? = some (some irq) ∧ irq.toNat = base.toNat + i) ∧
      (answer = .ok () → ∀ i < s.capacity, t.bindings[i]? = some (some (base + UInt32.ofNat i))) ∧
      (∀ e, answer = .error e → ∃ k < s.capacity, s.Refuses base k e ∧ (∀ i < k, ∀ e, ¬ s.Refuses base i e) ∧
        (∀ i < k, t.bindings[i]? = some (some (base + UInt32.ofNat i))) ∧
        (∀ i : Nat, k ≤ i → t.bindings[i]? = s.bindings[i]?)) ∧
      t.capacity = s.capacity ∧ t.idle = s.idle ∧ t.pending = s.pending ∧ ∀ i, t.running? i = s.running? i := by
  intro c s
  have hunshared : s.Unshared := unshared_run channels idle engine tickets completions ops
  refine ⟨hunshared, hunshared.channelOf?_eq_some_iff, fun base => ?_⟩
  intro answer t
  have hload : Scheduler.SameLoad s t := Scheduler.sameLoad_bindInterrupts base s
  have hkept := And.intro hload.capacity (And.intro hload.idle (And.intro hload.pending hload.running?))
  rcases Scheduler.bindInterrupts_cases hunshared base with ⟨hok, hfree, hbound⟩ |
    ⟨k, e, herror, hk, he, hleast, hbound⟩
  · have hanswer : answer = .ok () := hok
    refine ⟨?_, fun _ => hbound.below, fun e he => ?_, hkept⟩
    · exact iff_of_true hanswer ((Scheduler.forall_not_refuses_iff base s).1 hfree)
    · rw [hanswer] at he
      cases he
  · have hanswer : answer = .error e := herror
    refine ⟨?_, fun hok => ?_, fun e' he' => ?_, hkept⟩
    · refine iff_of_false (fun hok => ?_) fun hfits => ?_
      · rw [hanswer] at hok
        cases hok
      · exact (Scheduler.forall_not_refuses_iff base s).2 hfits k hk e he
    · rw [hanswer] at hok
      cases hok
    · rw [hanswer] at he'
      cases he'
      exact ⟨k, hk, he, hleast, hbound.below, hbound.above⟩

end Client
end BoardDriver
