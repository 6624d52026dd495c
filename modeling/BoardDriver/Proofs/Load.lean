/-
The load of a scheduler: how many requests it holds, on channels and waiting.

- `load_submit`, `load_complete`, `load_reset`: a submission adds one, a completion takes one away, a reset leaves none;
- `TransferLedger.Retires.load`, `Settles.load`: retirements, however they are nested, take away as many as there are;
- `Sound.exists_running?`: with a channel in the pool, no request waits while all channels rest;
- `Sound.getLsbD_idle`: with no load, the channels of the pool are idle, and no others.
-/
import BoardDriver.Proofs.RequestFate

namespace BoardDriver

namespace Scheduler

variable {s t : Scheduler}

/-- the number of requests on channels and waiting -/
def load (s : Scheduler) : Nat := s.inFlightCount + s.pending.length

theorem load_eq (s : Scheduler) : s.load = s.running.length + s.pending.length := by
  rw [load, inFlightCount_eq]

theorem load_eq_zero_iff (s : Scheduler) : s.load = 0 ↔ (∀ c, s.running? c = none) ∧ s.pending = [] := by
  rw [load_eq, Nat.add_eq_zero_iff, List.length_eq_zero_iff, List.length_eq_zero_iff, List.eq_nil_iff_forall_not_mem]
  refine and_congr_left fun _ => ?_
  constructor
  · intro hnone c
    cases hr : s.running? c with
    | none => rfl
    | some r => exact absurd ((mem_running_iff s r).2 ⟨c, hr⟩) (hnone r)
  · intro hnone r hr
    obtain ⟨c, hc⟩ := (mem_running_iff s r).1 hr
    rw [hnone c] at hc
    cases hc

@[simp] theorem load_fresh (channels : Nat) (idle : BitVec 32) : (fresh channels idle).load = 0 :=
  (load_eq_zero_iff _).2 ⟨running?_fresh channels idle, rfl⟩

/-! ## What an operation does to it -/

/-- what a channel gives up and takes over, counted, whatever becomes of the idle map and of the queue -/
theorem load_assign {c : Nat} (hc : c < s.capacity) (idle : BitVec 32) (pending : List Request) (r? : Option Request) :
    (({ channels := s.channels, idle := idle, pending := pending } : Scheduler).assign c r?).load +
      (s.running? c).toList.length = s.running.length + r?.toList.length + pending.length := by
  have hperm : ((({ channels := s.channels, idle := idle, pending := pending } : Scheduler).assign c r?).running ++
      (s.running? c).toList).Perm (s.running ++ r?.toList) := by
    rw [List.perm_iff_count]
    intro q
    rw [List.count_append, List.count_append]
    exact count_running_assign hc idle pending r? q
  have hlength := hperm.length_eq
  rw [List.length_append, List.length_append] at hlength
  rw [load_eq, pending_assign, Nat.add_right_comm, hlength]

theorem load_submit (h : s.Sound) (r : Request) : (s.submit r).2.load = s.load + 1 := by
  cases hl : Bits.lowest? s.idle with
  | none =>
    rw [submit_of_busy hl, load_eq, load_eq, List.length_append, List.length_singleton]
    exact (Nat.add_assoc _ _ 1).symm
  | some c =>
    obtain ⟨hlt, hfree, -⟩ := h.of_lowest? hl
    have hload := load_assign hlt (Bits.erase s.idle c) s.pending (some r)
    rw [hfree] at hload
    rw [submit_of_idle hl, load_eq s, Nat.add_right_comm]
    exact hload

theorem load_complete {irq : UInt32} {done : Completed} (h : s.complete irq = .ok (done, t)) :
    t.load + 1 = s.load := by
  obtain ⟨-, hr, hcases⟩ := complete_cases h
  have hlt := lt_capacity_of_running? hr
  rcases hcases with ⟨next, rest, hp, -, rfl⟩ | ⟨hp, -, rfl⟩
  · have hload := load_assign hlt s.idle rest (some next)
    rw [hr] at hload
    rw [load_eq s, hp, List.length_cons, Nat.add_comm rest.length, ← Nat.add_assoc]
    exact hload
  · have hload := load_assign hlt (Bits.insert s.idle done.channel) s.pending none
    rw [hr] at hload
    rw [load_eq s]
    exact hload

@[simp] theorem load_reset (s : Scheduler) : s.reset.2.load = 0 :=
  (load_eq_zero_iff _).2 ⟨running?_reset s, rfl⟩

theorem SameLoad.load (e : SameLoad s t) : t.load = s.load := by
  rw [load_eq, load_eq, e.running, e.pending]

/-! ## Load and the pool -/

/-- **Nobody waits for a resting pool.** With a channel in the pool, some channel is busy as long as there is any
load. -/
theorem Sound.exists_running? (h : s.Sound) {c : Nat} (hc : c < s.capacity) (hin : ¬ s.IsOutside c)
    (hload : s.load ≠ 0) : ∃ channel r, s.running? channel = some r := by
  by_contra hrest
  have hnone : ∀ channel, s.running? channel = none := by
    intro channel
    cases hr : s.running? channel with
    | none => rfl
    | some r => exact absurd ⟨channel, r, hr⟩ hrest
  -- the channel rests and is in the pool, so it is idle, and then nothing waits
  have hidle : s.idle.getLsbD c = true := by
    cases hi : s.idle.getLsbD c with
    | true => rfl
    | false => exact absurd ⟨hc, hi, hnone c⟩ hin
  exact hload ((load_eq_zero_iff s).2 ⟨hnone, h.idle_first c hidle⟩)

theorem Sound.getLsbD_idle (h : s.Sound) (hload : s.load = 0) (c : Nat) :
    s.idle.getLsbD c = true ↔ c < s.capacity ∧ ¬ s.IsOutside c := by
  have hrest := ((load_eq_zero_iff s).1 hload).1 c
  constructor
  · intro hi
    refine ⟨h.idle_lt c hi, ?_⟩
    rintro ⟨-, hclear, -⟩
    rw [hi] at hclear
    cases hclear
  · rintro ⟨hc, hin⟩
    cases hi : s.idle.getLsbD c with
    | true => rfl
    | false => exact absurd ⟨hc, hi, hrest⟩ hin

end Scheduler

/-! ## Retirements in sequence -/

namespace TransferLedger

variable {l m : TransferLedger}

theorem load_retire {irq : UInt32} {done : Completed} (h : l.retire irq = .ok (done, m)) :
    m.scheduler.load + 1 = l.scheduler.load :=
  Scheduler.load_complete (retire_cases h).1

theorem Retires.load {ds : List Completed} (h : l.Retires ds m) :
    m.scheduler.load + ds.length = l.scheduler.load := by
  induction h with
  | nil => rfl
  | cons hd _ ih =>
    rw [← load_retire hd, ← ih, List.length_cons, Nat.add_assoc]

end TransferLedger

/-- replies that report retirements are as many as the requests that are gone -/
theorem Settles.load {σ α : Type} {ledger : σ → TransferLedger} {report? : α → Option Retired} {s t : σ}
    {starts : List Start} {replies : List α} (h : Settles ledger report? s t starts replies) :
    (ledger t).scheduler.load + (replies.filterMap report?).length = (ledger s).scheduler.load := by
  obtain ⟨ds, hretires, -, hperm⟩ := h
  rw [← hperm.length_eq, List.length_map]
  exact hretires.load

end BoardDriver
