/-
All that the operations of the scheduler do, one lemma each, and what they do to the slots of the channels.

- `submit_of_idle`, `submit_of_busy`: a request goes to the lowest idle channel or to the end of the queue;
- `complete_cases`: a completion takes a request off its channel and refills or frees the channel;
- `SameLoad`: binding channels to interrupts moves no request.
-/
import BoardDriver.Transfer.Scheduler

namespace BoardDriver

namespace Scheduler

variable {s t : Scheduler}

/-! ## Slots -/

/-- the requests that channels carry out, in order of channels -/
def running (s : Scheduler) : List Request :=
  s.channels.filterMap Channel.inProgress

theorem inFlightCount_eq (s : Scheduler) : s.inFlightCount = s.running.length :=
  List.length_filterMap_eq_countP.symm

theorem lt_capacity_of_running? {c : Nat} {r : Request} (h : s.running? c = some r) : c < s.capacity := by
  simp only [running?, Option.bind_eq_some_iff] at h
  obtain ⟨ch, hc, -⟩ := h
  exact (List.getElem?_eq_some_iff.1 hc).1

theorem mem_running_iff (s : Scheduler) (r : Request) : r ∈ s.running ↔ ∃ c, s.running? c = some r := by
  simp only [running, List.mem_filterMap, running?, Option.bind_eq_some_iff]
  constructor
  · rintro ⟨ch, hc, hr⟩
    obtain ⟨c, hc⟩ := List.mem_iff_getElem?.1 hc
    exact ⟨c, ch, hc, hr⟩
  · rintro ⟨c, ch, hc, hr⟩
    exact ⟨ch, List.mem_of_getElem? hc, hr⟩

@[simp] theorem capacity_mk (s : Scheduler) (idle : BitVec 32) (pending : List Request) :
    ({ channels := s.channels, idle := idle, pending := pending } : Scheduler).capacity = s.capacity := rfl

@[simp] theorem running?_mk (s : Scheduler) (idle : BitVec 32) (pending : List Request) (c : Nat) :
    ({ channels := s.channels, idle := idle, pending := pending } : Scheduler).running? c = s.running? c := rfl

@[simp] theorem capacity_assign (s : Scheduler) (c : Nat) (r : Option Request) :
    (s.assign c r).capacity = s.capacity := by
  simp [capacity, assign, modifyChannel]

@[simp] theorem idle_assign (s : Scheduler) (c : Nat) (r : Option Request) : (s.assign c r).idle = s.idle := rfl

@[simp] theorem pending_assign (s : Scheduler) (c : Nat) (r : Option Request) :
    (s.assign c r).pending = s.pending := rfl

theorem running?_assign (s : Scheduler) (c i : Nat) (r : Option Request) :
    (s.assign c r).running? i = if i = c ∧ i < s.capacity then r else s.running? i := by
  simp only [running?, assign, modifyChannel, capacity, List.getElem?_modify]
  by_cases hi : i < s.channels.length
  · simp only [hi, List.getElem?_eq_getElem, Option.bind_some, and_true, eq_comm (a := i)]
    split <;> rfl
  · simp [hi]

theorem running?_assign_of_lt {c : Nat} (hc : c < s.capacity) (i : Nat) (r : Option Request) :
    (s.assign c r).running? i = if i = c then r else s.running? i := by
  rw [running?_assign]
  by_cases hi : i = c
  · rw [if_pos ⟨hi, hi ▸ hc⟩, if_pos hi]
  · rw [if_neg fun he => hi he.1, if_neg hi]

/-- who is on a channel after a request has been put on one -/
theorem running?_assign_cases {c i : Nat} {r q : Request} (hc : c < s.capacity)
    (h : (s.assign c (some r)).running? i = some q) : i = c ∧ q = r ∨ i ≠ c ∧ s.running? i = some q := by
  rw [running?_assign_of_lt hc] at h
  by_cases hi : i = c
  · rw [if_pos hi] at h
    exact .inl ⟨hi, (Option.some.inj h).symm⟩
  · rw [if_neg hi] at h
    exact .inr ⟨hi, h⟩

theorem channelOf?_lt {irq : UInt32} {c : Nat} (h : s.channelOf? irq = some c) : c < s.capacity :=
  (List.findIdx?_eq_some_iff_getElem.1 h).1

/-! ## All that an operation can do -/

theorem submit_of_idle {c : Nat} (h : Bits.lowest? s.idle = some c) (r : Request) :
    s.submit r = (some (r.startOn c), { s with idle := Bits.erase s.idle c }.assign c (some r)) := by
  simp only [submit, h]

theorem submit_of_busy (h : Bits.lowest? s.idle = none) (r : Request) :
    s.submit r = (none, { s with pending := s.pending ++ [r] }) := by
  simp only [submit, h]

/-- a completion takes the request off the channel of the interrupt, and puts the head of the queue there or marks the
channel idle -/
theorem complete_cases {irq : UInt32} {done : Completed} (h : s.complete irq = .ok (done, t)) :
    s.channelOf? irq = some done.channel ∧ s.running? done.channel = some done.request ∧
    ((∃ next rest, s.pending = next :: rest ∧ done.next = some (next.startOn done.channel) ∧
        t = { s with pending := rest }.assign done.channel (some next)) ∨
      (s.pending = [] ∧ done.next = none ∧
        t = { s with idle := Bits.insert s.idle done.channel }.assign done.channel none)) := by
  simp only [complete] at h
  split at h
  · cases h
  · rename_i c hc
    split at h
    · cases h
    · rename_i r hr
      split at h
      · rename_i next rest hp
        cases h
        exact ⟨hc, hr, .inl ⟨next, rest, hp, rfl, rfl⟩⟩
      · rename_i hp
        cases h
        exact ⟨hc, hr, .inr ⟨hp, rfl, rfl⟩⟩

/-- an interrupt whose channel carries out a request retires it -/
theorem complete_of_running {irq : UInt32} {c : Nat} {r : Request} (hc : s.channelOf? irq = some c)
    (hr : s.running? c = some r) :
    ∃ done t, s.complete irq = .ok (done, t) ∧ done.channel = c ∧ done.request = r := by
  simp only [complete, hc, hr]
  split
  · exact ⟨_, _, rfl, rfl, rfl⟩
  · exact ⟨_, _, rfl, rfl, rfl⟩

/-- who is on a channel after a completion: the head of the queue has taken the place -/
theorem running?_complete {irq : UInt32} {done : Completed} (h : s.complete irq = .ok (done, t)) (c : Nat) :
    t.running? c = if c = done.channel then s.pending.head? else s.running? c := by
  obtain ⟨-, hr, hcases⟩ := complete_cases h
  have hlt := lt_capacity_of_running? hr
  rcases hcases with ⟨next, rest, hp, -, rfl⟩ | ⟨hp, -, rfl⟩
  · rw [running?_assign_of_lt (by exact hlt), hp]
    rfl
  · rw [running?_assign_of_lt (by exact hlt), hp]
    rfl

/-- a channel becomes idle if nothing waits for it -/
theorem idle_complete {irq : UInt32} {done : Completed} (h : s.complete irq = .ok (done, t)) :
    t.idle = if s.pending = [] then Bits.insert s.idle done.channel else s.idle := by
  obtain ⟨-, -, ⟨next, rest, hp, -, rfl⟩ | ⟨hp, -, rfl⟩⟩ := complete_cases h
  · rw [if_neg (hp ▸ List.cons_ne_nil next rest)]
    rfl
  · rw [if_pos hp]
    rfl

/-- what is started in its place is the head of the queue -/
theorem next_complete {irq : UInt32} {done : Completed} (h : s.complete irq = .ok (done, t)) :
    done.next = s.pending.head?.map fun q => q.startOn done.channel := by
  obtain ⟨-, -, ⟨next, rest, hp, hn, -⟩ | ⟨hp, hn, -⟩⟩ := complete_cases h
  · rw [hn, hp]
    rfl
  · rw [hn, hp]
    rfl

/-! ## Bindings carry no load -/

/-- `t` differs from `s` in the interrupts of its channels at most -/
structure SameLoad (s t : Scheduler) : Prop where
  idle : t.idle = s.idle
  pending : t.pending = s.pending
  slots : t.channels.map Channel.inProgress = s.channels.map Channel.inProgress

theorem SameLoad.refl (s : Scheduler) : SameLoad s s := ⟨rfl, rfl, rfl⟩

theorem SameLoad.symm (h : SameLoad s t) : SameLoad t s := ⟨h.idle.symm, h.pending.symm, h.slots.symm⟩

theorem SameLoad.trans {u : Scheduler} (h : SameLoad s t) (h' : SameLoad t u) : SameLoad s u :=
  ⟨h'.idle.trans h.idle, h'.pending.trans h.pending, h'.slots.trans h.slots⟩

theorem SameLoad.capacity (h : SameLoad s t) : t.capacity = s.capacity := by
  simpa [Scheduler.capacity] using congrArg List.length h.slots

theorem running?_eq_slots (s : Scheduler) (c : Nat) :
    s.running? c = (s.channels.map Channel.inProgress)[c]?.join := by
  simp only [running?, List.getElem?_map]
  cases s.channels[c]? <;> rfl

theorem running_eq_slots (s : Scheduler) : s.running = (s.channels.map Channel.inProgress).filterMap id := by
  simp [running, List.filterMap_map]

theorem SameLoad.running? (h : SameLoad s t) (c : Nat) : t.running? c = s.running? c := by
  rw [running?_eq_slots, running?_eq_slots, h.slots]

theorem SameLoad.running (h : SameLoad s t) : t.running = s.running := by
  rw [running_eq_slots, running_eq_slots, h.slots]

theorem sameLoad_of_enable {c : Nat} {irq : UInt32} (h : s.enable c irq = .ok t) : SameLoad s t := by
  simp only [enable] at h
  split at h
  · cases h
  · split at h
    · cases h
      refine ⟨rfl, rfl, List.ext_getElem? fun i => ?_⟩
      simp only [modifyChannel, List.getElem?_map, List.getElem?_modify]
      cases s.channels[i]? with
      | none => rfl
      | some ch => simp only [Option.map_some]; split <;> rfl
    · cases h

theorem sameLoad_bindFrom (base : UInt32) (c count : Nat) (s : Scheduler) :
    SameLoad s (bindFrom base c count s).2 := by
  induction count generalizing c s with
  | zero => exact .refl s
  | succ count ih =>
    simp only [bindFrom]
    split
    · split
      · rename_i t ht
        exact (sameLoad_of_enable ht).trans (ih (c + 1) t)
      · exact .refl s
    · exact .refl s

theorem sameLoad_bindInterrupts (base : UInt32) (s : Scheduler) : SameLoad s (s.bindInterrupts base).2 :=
  sameLoad_bindFrom base 0 s.capacity s

end Scheduler
end BoardDriver
