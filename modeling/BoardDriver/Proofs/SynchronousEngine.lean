/-
Engines that are done with a transfer before its start returns.

Such an engine raises one interrupt from inside every start: `f c` when it is started on channel `c`. The interrupt is
answered there and then, which may start the next transfer, and so on. `Completes` and `Submits` tell call by call how
this nests. They put no bound on the depth: a derivation is a run of the calls that comes to an end.

- `Completes.length_le`: every completion but the last takes a request from the queue, so there are not many;
- `completes_complete`, `submits_submit`: the calls of a unit come to an end, whatever `f` is, and what they come to is
  what the unit computes;
- `Completes.drains`: if `f` gives each channel its own interrupt, the queue drains through the channel;
- `Submits.of_idle`: then a request that finds an idle channel is retired at once and leaves no trace in the scheduler;
- `Client.synchronous_engine_drains`: so it is with the books of any client, whatever engine made them what they are.
-/
import BoardDriver.Proofs.Binding
import BoardDriver.Proofs.RequestFate

namespace BoardDriver

/-! ## Changes of one channel that cancel out -/

theorem Bits.insert_erase {m : BitVec 32} {i : Nat} (h : m.getLsbD i = true) : Bits.insert (Bits.erase m i) i = m := by
  apply BitVec.eq_of_getLsbD_eq
  intro j hj
  rw [Bits.getLsbD_insert, Bits.getLsbD_erase]
  by_cases hji : j = i
  · subst hji
    simp [h, hj]
  · simp [hji]

namespace Scheduler

variable {s : Scheduler}

theorem assign_assign (s : Scheduler) (c : Nat) (r r' : Option Request) : (s.assign c r).assign c r' = s.assign c r' := by
  simp only [assign, modifyChannel, List.modify_modify_eq]
  rfl

/-- taking the request off a channel that carries out none -/
theorem assign_none {c : Nat} (h : s.running? c = none) : s.assign c none = s := by
  have hchannels : s.channels.modify c (fun ch => { ch with inProgress := none }) = s.channels := by
    apply List.ext_getElem?
    intro i
    rw [List.getElem?_modify]
    cases hi : s.channels[i]? with
    | none => rfl
    | some ch =>
      by_cases hci : c = i
      · subst hci
        have hfree : ch.inProgress = none := by simpa [running?, hi] using h
        simp [← hfree]
      · simp [hci]
  rw [assign, modifyChannel, hchannels]

/-- a change of one channel leaves the others alone, their interrupts included -/
theorem channels_assign_of_ne (s : Scheduler) {c i : Nat} (hi : i ≠ c) (r : Option Request) :
    (s.assign c r).channels[i]? = s.channels[i]? := by
  simp [assign, modifyChannel, Ne.symm hi]

end Scheduler

@[simp] theorem EngineActivity.append_empty {α : Type} (a : EngineActivity α) : a ++ ({} : EngineActivity α) = a := by
  change ({ steps := a.steps ++ [], events := a.events ++ [] } : EngineActivity α) = a
  rw [List.append_nil, List.append_nil]

/-! ## Synchronous engines -/

namespace TransferEngine

variable {ε : Type} [TransferEngine ε]

/-- the engine when it has been told to start these transfers -/
def after (e : ε) (starts : List Start) : ε :=
  starts.foldl (fun e start => (TransferEngine.start start e).state) e

/-- whatever it has been told before, the engine raises the interrupt `f c` from inside a start on channel `c`, and no
other -/
def Synchronous (f : Nat → UInt32) (e : ε) : Prop :=
  ∀ (earlier : List Start) (start : Start), TransferEngine.raises (after e (earlier ++ [start])) start = [f start.channel]

variable {f : Nat → UInt32} {e : ε}

theorem Synchronous.raises (h : Synchronous f e) (start : Start) :
    TransferEngine.raises (TransferEngine.start start e).state start = [f start.channel] :=
  h [] start

/-- it stays so -/
theorem Synchronous.start (h : Synchronous f e) (start : Start) : Synchronous f (TransferEngine.start start e).state :=
  fun earlier next => h (start :: earlier) next

end TransferEngine

/-! ## Calls, one inside the other -/

namespace DmaUnit

variable {ε : Type} [TransferEngine ε] {f : Nat → UInt32} {irq : UInt32} {r : Request} {u : DmaUnit ε}
variable {replies : List (Except Error Retired)} {o : Result ε (Except Error Retired)}

/-- what a start leaves behind when the interrupt raised from inside it was answered with `inner` -/
def interrupted (start : Start) (u : DmaUnit ε) (irq : UInt32) (inner : Result ε (Except Error Retired)) :
    DmaUnit ε × EngineActivity (Except Error Retired) :=
  (inner.2.1,
    { steps := [.started start (launch start u).result], events := (launch start u).events } ++
      (inner.2.2 ++ { steps := [.raised irq inner.1] }))

@[simp] theorem starts_interrupted (start : Start) (u : DmaUnit ε) (irq : UInt32)
    (inner : Result ε (Except Error Retired)) :
    (interrupted start u irq inner).2.starts = start :: inner.2.2.starts := by
  simp [interrupted]

@[simp] theorem answers_interrupted (start : Start) (u : DmaUnit ε) (irq : UInt32)
    (inner : Result ε (Except Error Retired)) :
    (interrupted start u irq inner).2.answers = inner.2.2.answers ++ [inner.1] := by
  simp [interrupted]

/-- a completion of `irq` returns `o`, on an engine that completes `f c` from inside every start on channel `c`;
`replies` are those of this completion and of all nested in it, in the order in which they retire something or refuse,
that is, from the outside in -/
inductive Completes (f : Nat → UInt32) :
    UInt32 → DmaUnit ε → List (Except Error Retired) → Result ε (Except Error Retired) → Prop
  | refused {irq : UInt32} {u : DmaUnit ε} {e : Error} :
      u.toTransferLedger.retire irq = .error e → Completes f irq u [.error e] (.error e, u, {})
  | freed {irq : UInt32} {u : DmaUnit ε} {done : Completed} {l : TransferLedger} :
      u.toTransferLedger.retire irq = .ok (done, l) → done.next = none →
      Completes f irq u [.ok done.report] (.ok done.report, { u with toTransferLedger := l }, {})
  | promoted {irq : UInt32} {u : DmaUnit ε} {done : Completed} {l : TransferLedger} {start : Start}
      {replies : List (Except Error Retired)} {inner : Result ε (Except Error Retired)} :
      u.toTransferLedger.retire irq = .ok (done, l) → done.next = some start →
      Completes f (f start.channel) (launch start { u with toTransferLedger := l }).state replies inner →
      Completes f irq u (.ok done.report :: replies)
        (.ok done.report, interrupted start { u with toTransferLedger := l } (f start.channel) inner)

/-- a submission of `r` returns, with the unit that it leaves behind and what the engine did; `replies` are those of all
completions nested in it, in the same order -/
inductive Submits (f : Nat → UInt32) (r : Request) (u : DmaUnit ε) :
    List (Except Error Retired) → DmaUnit ε × EngineActivity (Except Error Retired) → Prop
  | queued {l : TransferLedger} :
      u.toTransferLedger.submit r = (none, l) → Submits f r u [] ({ u with toTransferLedger := l }, {})
  | started {l : TransferLedger} {start : Start} {replies : List (Except Error Retired)}
      {inner : Result ε (Except Error Retired)} :
      u.toTransferLedger.submit r = (some start, l) →
      Completes f (f start.channel) (launch start { u with toTransferLedger := l }).state replies inner →
      Submits f r u replies (interrupted start { u with toTransferLedger := l } (f start.channel) inner)

/-- there is one way only for a completion to go -/
theorem Completes.unique {replies' : List (Except Error Retired)} {o' : Result ε (Except Error Retired)}
    (h : Completes f irq u replies o) (h' : Completes f irq u replies' o') : replies = replies' ∧ o = o' := by
  induction h generalizing replies' o' with
  | refused hd =>
    cases h' with
    | refused hd' =>
      rw [hd] at hd'
      cases hd'
      exact ⟨rfl, rfl⟩
    | freed hd' => rw [hd] at hd'; cases hd'
    | promoted hd' => rw [hd] at hd'; cases hd'
  | freed hd hn =>
    cases h' with
    | refused hd' => rw [hd] at hd'; cases hd'
    | freed hd' =>
      rw [hd] at hd'
      cases hd'
      exact ⟨rfl, rfl⟩
    | promoted hd' hn' =>
      rw [hd] at hd'
      cases hd'
      rw [hn] at hn'
      cases hn'
  | promoted hd hn _ ih =>
    cases h' with
    | refused hd' => rw [hd] at hd'; cases hd'
    | freed hd' hn' =>
      rw [hd] at hd'
      cases hd'
      rw [hn] at hn'
      cases hn'
    | promoted hd' hn' hinner' =>
      rw [hd] at hd'
      cases hd'
      rw [hn] at hn'
      cases hn'
      obtain ⟨rfl, rfl⟩ := ih hinner'
      exact ⟨rfl, rfl⟩

/-- and one for a submission -/
theorem Submits.unique {replies' : List (Except Error Retired)}
    {p p' : DmaUnit ε × EngineActivity (Except Error Retired)} (h : Submits f r u replies p)
    (h' : Submits f r u replies' p') : replies = replies' ∧ p = p' := by
  cases h with
  | queued hs =>
    cases h' with
    | queued hs' =>
      rw [hs] at hs'
      cases hs'
      exact ⟨rfl, rfl⟩
    | started hs' => rw [hs] at hs'; cases hs'
  | started hs hinner =>
    cases h' with
    | queued hs' => rw [hs] at hs'; cases hs'
    | started hs' hinner' =>
      rw [hs] at hs'
      cases hs'
      obtain ⟨rfl, rfl⟩ := hinner.unique hinner'
      exact ⟨rfl, rfl⟩

/-- nested replies come back from the inside out -/
theorem Completes.replies_eq (h : Completes f irq u replies o) : replies = o.1 :: o.2.2.answers.reverse := by
  induction h with
  | refused => rfl
  | freed => rfl
  | @promoted irq u done l start replies inner hd hn _ ih =>
    rw [answers_interrupted, List.reverse_append, List.reverse_singleton, List.singleton_append, ← ih]

theorem Submits.replies_eq {p : DmaUnit ε × EngineActivity (Except Error Retired)} (h : Submits f r u replies p) :
    replies = p.2.answers.reverse := by
  cases h with
  | queued => rfl
  | started hs hinner =>
    rw [answers_interrupted, List.reverse_append, List.reverse_singleton, List.singleton_append, ← hinner.replies_eq]

/-- **Completions are few.** Every completion but the innermost one has taken a request from the queue. -/
theorem Completes.length_le (h : Completes f irq u replies o) :
    replies.length ≤ u.scheduler.pending.length + 1 := by
  induction h with
  | refused => exact Nat.le_add_left 1 _
  | freed => exact Nat.le_add_left 1 _
  | @promoted irq u done l start replies inner hd hn _ ih =>
    obtain ⟨hpending, hnext⟩ := Scheduler.pending_of_complete (TransferLedger.retire_cases hd).1
    have hwaits : 0 < u.scheduler.pending.length := List.length_pos_iff.2 (hnext.1 (by rw [hn]; rfl))
    have hinner : replies.length ≤ l.scheduler.pending.length + 1 := ih
    rw [hpending, List.length_tail] at hinner
    rw [List.length_cons]
    omega

/-! ## The calls come to an end -/

/-- a start on a synchronous engine is interrupted once -/
theorem kickOff_of_synchronous (hf : TransferEngine.Synchronous f u.engine)
    (answer : UInt32 → DmaUnit ε → Result ε (Except Error Retired)) (start : Start) :
    kickOff launch answer start u =
      interrupted start u (f start.channel) (answer (f start.channel) (launch start u).state) := by
  have hraised : (launch start u).raised = [f start.channel] := hf.raises start
  simp only [kickOff, hraised, answerAll, interrupted, EngineActivity.append_empty]

theorem completes_completeWith {kick : Start → DmaUnit ε → DmaUnit ε × EngineActivity (Except Error Retired)}
    (hkick : ∀ done l start, u.toTransferLedger.retire irq = .ok (done, l) → done.next = some start →
      ∃ replies inner,
        Completes f (f start.channel) (launch start { u with toTransferLedger := l }).state replies inner ∧
        kick start { u with toTransferLedger := l } =
          interrupted start { u with toTransferLedger := l } (f start.channel) inner) :
    ∃ replies, Completes f irq u replies (completeWith kick irq u) := by
  cases hd : u.toTransferLedger.retire irq with
  | error e =>
    simp only [completeWith, hd]
    exact ⟨_, .refused hd⟩
  | ok p =>
    obtain ⟨done, l⟩ := p
    simp only [completeWith, hd]
    cases hn : done.next with
    | none => exact ⟨_, .freed hd hn⟩
    | some start =>
      obtain ⟨replies, inner, hinner, heq⟩ := hkick done l start hd hn
      simp only [kickOff?, heq]
      exact ⟨_, .promoted hd hn hinner⟩

/-- the bound on the depth is never reached, by induction on it: a nested completion finds a request less in the
queue -/
theorem completes_completeWithin (depth : Nat) (irq : UInt32) (u : DmaUnit ε)
    (hu : u.scheduler.pending.length ≤ depth) (hf : TransferEngine.Synchronous f u.engine) :
    ∃ replies, Completes f irq u replies (completeWithin depth irq u) := by
  induction depth generalizing irq u with
  | zero =>
    apply completes_completeWith
    intro done l start hd hn
    have hnext := (Scheduler.pending_of_complete (TransferLedger.retire_cases hd).1).2
    have hwaits := List.length_pos_iff.2 (hnext.1 (by rw [hn]; rfl))
    omega
  | succ depth ih =>
    apply completes_completeWith
    intro done l start hd hn
    have hpending := (Scheduler.pending_of_complete (TransferLedger.retire_cases hd).1).1
    have hshorter : l.scheduler.pending.length ≤ depth := by
      rw [hpending, List.length_tail]
      omega
    obtain ⟨replies, hinner⟩ := ih (f start.channel) (launch start { u with toTransferLedger := l }).state hshorter
      (hf.start start)
    have hkick := kickOff_of_synchronous (u := { u with toTransferLedger := l }) hf (completeWithin depth) start
    exact ⟨replies, _, hinner, hkick⟩

/-- **A completion returns**, and the unit computes what it returns. -/
theorem completes_complete (irq : UInt32) (u : DmaUnit ε) (hf : TransferEngine.Synchronous f u.engine) :
    ∃ replies, Completes f irq u replies (complete irq u) :=
  completes_completeWithin _ irq u (Nat.le_refl _) hf

/-- **A submission returns**, and the unit computes what it leaves behind. -/
theorem submits_submit (r : Request) (u : DmaUnit ε) (hf : TransferEngine.Synchronous f u.engine) :
    ∃ replies, Submits f r u replies (submit r u) := by
  cases hs : u.toTransferLedger.submit r with
  | mk start? l =>
    cases start? with
    | none =>
      simp only [submit, hs]
      exact ⟨_, .queued hs⟩
    | some start =>
      obtain ⟨replies, hinner⟩ := completes_complete (f start.channel)
        (launch start { u with toTransferLedger := l }).state (hf.start start)
      have hkick := kickOff_of_synchronous (u := { u with toTransferLedger := l }) hf complete start
      simp only [submit, hs, kickOff?, hkick]
      exact ⟨replies, .started hs hinner⟩

/-- a submission comes with no more completions than requests wait, and one -/
theorem Submits.length_le {p : DmaUnit ε × EngineActivity (Except Error Retired)} (h : Submits f r u replies p) :
    replies.length ≤ u.scheduler.pending.length + 1 := by
  cases h with
  | queued => exact Nat.zero_le _
  | @started l start _ inner hs hinner =>
    have hpending : l.scheduler.pending = u.scheduler.pending := by
      cases hl : Bits.lowest? u.scheduler.idle with
      | none => simp [TransferLedger.submit, Scheduler.submit_of_busy hl] at hs
      | some c =>
        simp only [TransferLedger.submit, Scheduler.submit_of_idle hl, Prod.mk.injEq] at hs
        obtain ⟨-, rfl⟩ := hs
        rfl
    have hle : replies.length ≤ l.scheduler.pending.length + 1 := hinner.length_le
    rwa [hpending] at hle

end DmaUnit

/-! ## The queue drains through one channel -/

namespace TransferLedger

variable {l m : TransferLedger} {c : Nat} {r : Request}

/-- the books when channel `c` has retired its request `r` and then, one after another, all that waited -/
def drained (l : TransferLedger) (c : Nat) (r : Request) : TransferLedger :=
  { l with
    scheduler := { l.scheduler with idle := Bits.insert l.scheduler.idle c, pending := [] }.assign c none
    completions := (r :: l.scheduler.pending).foldl (fun t q => t.signal q.completion) l.completions }

/-- a retirement puts the head of the queue on the channel and leaves the rest to drain; with nothing waiting, all is
drained -/
theorem drained_of_retire {irq : UInt32} {done : Completed} (h : l.retire irq = .ok (done, m)) :
    (∃ q rest, l.scheduler.pending = q :: rest ∧ m.scheduler.pending = rest ∧
        done.next = some (q.startOn done.channel) ∧ m.scheduler.running? done.channel = some q ∧
        m.drained done.channel q = l.drained done.channel done.request) ∨
      (l.scheduler.pending = [] ∧ done.next = none ∧ m = l.drained done.channel done.request) := by
  obtain ⟨hcomplete, htickets, hcompletions⟩ := retire_cases h
  have hslot := Scheduler.running?_complete hcomplete done.channel
  obtain ⟨-, -, hcases⟩ := Scheduler.complete_cases hcomplete
  rcases hcases with ⟨q, rest, hpending, hnext, hscheduler⟩ | ⟨hpending, hnext, hscheduler⟩
  · rw [if_pos rfl, hpending] at hslot
    refine .inl ⟨q, rest, hpending, by rw [hscheduler]; rfl, hnext, hslot, ?_⟩
    simp only [drained, TransferLedger.mk.injEq]
    refine ⟨?_, htickets, ?_⟩
    · rw [hscheduler]
      exact Scheduler.assign_assign { l.scheduler with idle := Bits.insert l.scheduler.idle done.channel, pending := [] }
        done.channel (some q) none
    · rw [hcompletions, hscheduler, hpending]
      rfl
  · refine .inr ⟨hpending, hnext, ?_⟩
    cases m
    simp only [drained, TransferLedger.mk.injEq]
    refine ⟨?_, htickets, ?_⟩
    · rw [← hpending]
      exact hscheduler
    · rw [hpending]
      exact hcompletions

/-- a submission that finds a channel idle, drained again, has signalled a handle -/
theorem drained_submit (hsound : l.scheduler.Sound) (hidle : Bits.lowest? l.scheduler.idle = some c) (r : Request) :
    (l.submit r).2.drained c r = { l with completions := l.completions.signal r.completion } := by
  obtain ⟨-, hfree, hpending⟩ := hsound.of_lowest? hidle
  have hbit : l.scheduler.idle.getLsbD c = true := ((Bits.lowest?_eq_some_iff _ _).1 hidle).1
  simp only [submit, Scheduler.submit_of_idle hidle, drained, TransferLedger.mk.injEq, true_and]
  refine ⟨?_, ?_⟩
  · calc ({ l.scheduler with idle := Bits.insert (Bits.erase l.scheduler.idle c) c, pending := [] }.assign c
          (some r)).assign c none
        = ({ l.scheduler with idle := Bits.insert (Bits.erase l.scheduler.idle c) c, pending := [] } : Scheduler).assign
          c none := Scheduler.assign_assign _ c (some r) none
      _ = l.scheduler.assign c none := by rw [Bits.insert_erase hbit, ← hpending]
      _ = l.scheduler := Scheduler.assign_none hfree
  · rw [Scheduler.pending_assign, hpending]
    rfl

end TransferLedger

namespace DmaUnit

variable {ε : Type} [TransferEngine ε] {f : Nat → UInt32} {irq : UInt32} {u : DmaUnit ε} {c : Nat} {r : Request}
variable {replies : List (Except Error Retired)} {o : Result ε (Except Error Retired)}

/-- **The queue drains.** If the interrupt raised from inside a start on channel `c` is that of the channel, a
completion of its request retires this request and then all that wait, in order. -/
theorem Completes.drains (h : Completes f irq u replies o) (hirq : u.scheduler.channelOf? irq = some c)
    (hr : u.scheduler.running? c = some r) (hf : u.scheduler.channelOf? (f c) = some c) :
    replies = (r :: u.scheduler.pending).map (fun q => .ok (q.retiredOn c)) ∧
      o.2.1.toTransferLedger = u.toTransferLedger.drained c r ∧
      o.2.2.starts = u.scheduler.pending.map (fun q => q.startOn c) := by
  -- what is retired first is the request of the channel
  have hfirst : ∀ {irq : UInt32} {u : DmaUnit ε} {r : Request} {done : Completed} {l : TransferLedger},
      u.scheduler.channelOf? irq = some c → u.scheduler.running? c = some r →
      u.toTransferLedger.retire irq = .ok (done, l) → done.channel = c ∧ done.request = r := by
    intro irq u r done l hirq hr hd
    obtain ⟨hchannel, hrequest, -⟩ := Scheduler.complete_cases (TransferLedger.retire_cases hd).1
    have hsame : done.channel = c := Option.some.inj (hchannel.symm.trans hirq)
    rw [hsame] at hrequest
    exact ⟨hsame, Option.some.inj (hrequest.symm.trans hr)⟩
  induction h generalizing r with
  | @refused irq u e hd =>
    have hreports := (u.toTransferLedger.retire_report_iff irq (r.retiredOn c)).2 ⟨c, r, hirq, hr, rfl⟩
    rw [hd] at hreports
    cases hreports
  | @freed irq u done l hd hn =>
    obtain ⟨rfl, rfl⟩ := hfirst hirq hr hd
    rcases TransferLedger.drained_of_retire hd with ⟨q, rest, -, -, hnext, -⟩ | ⟨hpending, -, hl⟩
    · rw [hn] at hnext
      cases hnext
    · rw [hpending]
      exact ⟨rfl, hl, rfl⟩
  | @promoted irq u done l start replies inner hd hn hinner ih =>
    obtain ⟨rfl, rfl⟩ := hfirst hirq hr hd
    rcases TransferLedger.drained_of_retire hd with ⟨q, rest, hpending, hrest, hnext, hslot, hl⟩ | ⟨-, hnone, -⟩
    · obtain rfl : start = q.startOn done.channel := Option.some.inj (hn.symm.trans hnext)
      have hbound : l.scheduler.channelOf? (f done.channel) = some done.channel := by
        rw [Scheduler.channelOf?_eq, Scheduler.bindings_complete (TransferLedger.retire_cases hd).1,
          ← Scheduler.channelOf?_eq]
        exact hf
      obtain ⟨hreplies, hledger, hstarts⟩ := ih hbound hslot hbound
      replace hreplies : replies = (q :: l.scheduler.pending).map fun p => .ok (p.retiredOn done.channel) := hreplies
      replace hstarts : inner.2.2.starts = l.scheduler.pending.map fun p => p.startOn done.channel := hstarts
      rw [hrest] at hreplies hstarts
      rw [hpending]
      refine ⟨?_, ?_, ?_⟩
      · rw [hreplies]
        rfl
      · rw [← hl]
        exact hledger
      · rw [starts_interrupted, hstarts]
        rfl
    · rw [hn] at hnone
      cases hnone

/-- a request that finds a channel idle is retired at once: all that is left of it is its handle -/
theorem Submits.of_idle {p : DmaUnit ε × EngineActivity (Except Error Retired)} (h : Submits f r u replies p)
    (hsound : u.scheduler.Sound) (hidle : Bits.lowest? u.scheduler.idle = some c)
    (hf : u.scheduler.channelOf? (f c) = some c) :
    replies = [.ok (r.retiredOn c)] ∧ p.2.starts = [r.startOn c] ∧
      p.1.toTransferLedger = { u.toTransferLedger with completions := u.completions.signal r.completion } := by
  obtain ⟨hlt, -, hpending⟩ := hsound.of_lowest? hidle
  have hsubmit := Scheduler.submit_of_idle hidle r
  have hstart : (u.toTransferLedger.submit r).1 = some (r.startOn c) := by
    simp only [TransferLedger.submit, hsubmit]
  have hbound : (u.toTransferLedger.submit r).2.scheduler.channelOf? (f c) = some c := by
    rw [Scheduler.channelOf?_eq, TransferLedger.submit, Scheduler.bindings_submit, ← Scheduler.channelOf?_eq]
    exact hf
  have hslot : (u.toTransferLedger.submit r).2.scheduler.running? c = some r := by
    simp only [TransferLedger.submit, hsubmit]
    rw [Scheduler.running?_assign, if_pos ⟨rfl, hlt⟩]
  have hqueue : (u.toTransferLedger.submit r).2.scheduler.pending = [] := by
    simp only [TransferLedger.submit, hsubmit]
    exact hpending
  have hdrained := TransferLedger.drained_submit hsound hidle r
  cases h with
  | queued hs =>
    rw [hs] at hstart
    cases hstart
  | @started l start _ inner hs hinner =>
    rw [hs] at hstart hbound hslot hqueue hdrained
    obtain rfl : start = r.startOn c := Option.some.inj hstart
    obtain ⟨hreplies, hledger, hstarts⟩ := hinner.drains hbound hslot hbound
    replace hreplies : replies = (r :: l.scheduler.pending).map fun q => .ok (q.retiredOn c) := hreplies
    replace hstarts : inner.2.2.starts = l.scheduler.pending.map fun q => q.startOn c := hstarts
    rw [hqueue] at hreplies hstarts
    refine ⟨hreplies, ?_, hledger.trans hdrained⟩
    rw [starts_interrupted, hstarts]
    rfl

end DmaUnit

/-! ## Books of any client -/

namespace Client

/-- **Synchronous engines drain the queue.** Take the books of a client of a new unit after any run, whatever engine it
had, and an engine that completes `f c` from inside every start on channel `c`:
- a completion returns, in one way only, and no more completions are nested in it than requests wait;
- a submission returns, in one way only, and with no more completions than requests wait, and one;
- a completion that succeeds, if `f` gives its channel the interrupt of the channel, has started and retired there all
that waited, in order; it leaves the channel idle, the queue empty, and the other channels as they were;
- a submission while some channel is idle, if `f` gives the lowest of these its interrupt, retires the request and
leaves the scheduler as it was. -/
theorem synchronous_engine_drains {ε₀ ε : Type} [TransferEngine ε₀] [TransferEngine ε] (channels : Nat)
    (idle : BitVec 32) (engine₀ : ε₀) (tickets : TicketCounter) (completions : CompletionTable) (ops : List Op)
    (f : Nat → UInt32) (engine : ε) (hf : TransferEngine.Synchronous f engine) :
    let u : DmaUnit ε := {
      toTransferLedger := ((fresh channels idle engine₀ tickets completions).run ops).toTransferLedger
      engine := engine }
    let s := u.scheduler
    (∀ irq,
      let o := u.complete irq
      DmaUnit.Completes f irq u (o.1 :: o.2.2.answers.reverse) o ∧
      (∀ replies o', DmaUnit.Completes f irq u replies o' → o' = o) ∧
      o.2.2.answers.length ≤ s.pending.length) ∧
    (∀ r,
      let p := u.submit r
      DmaUnit.Submits f r u p.2.answers.reverse p ∧
      (∀ replies p', DmaUnit.Submits f r u replies p' → p' = p) ∧
      p.2.answers.length ≤ s.pending.length + 1) ∧
    (∀ irq x, (u.complete irq).1 = .ok x → s.bindings[x.channel]? = some (some (f x.channel)) →
      let o := u.complete irq
      let t := o.2.1.scheduler
      ∃ r, s.running? x.channel = some r ∧
        DmaUnit.Completes f irq u ((r :: s.pending).map fun q => .ok (q.retiredOn x.channel)) o ∧
        o.2.2.starts = s.pending.map (fun q => q.startOn x.channel) ∧
        t.idle = Bits.insert s.idle x.channel ∧ t.idle.getLsbD x.channel = true ∧ t.running? x.channel = none ∧
        t.pending = [] ∧ (∀ i, i ≠ x.channel → t.channels[i]? = s.channels[i]?) ∧
        o.2.1.completions = (r :: s.pending).foldl (fun t q => t.signal q.completion) u.completions) ∧
    (∀ r, s.idle ≠ 0#32 → ∃ c, Bits.lowest? s.idle = some c ∧ (s.bindings[c]? = some (some (f c)) →
      let p := u.submit r
      DmaUnit.Submits f r u [.ok (r.retiredOn c)] p ∧ p.2.starts = [r.startOn c] ∧ p.1.scheduler = s ∧
        p.1.completions = u.completions.signal r.completion)) := by
  intro u s
  have hsound : s.Sound := (inStep_run channels idle engine₀ tickets completions ops).sound
  have hunshared : s.Unshared := unshared_run channels idle engine₀ tickets completions ops
  refine ⟨?completes, ?submits, ?drains, ?atOnce⟩
  case completes =>
    intro irq o
    obtain ⟨replies, h⟩ := DmaUnit.completes_complete irq u hf
    obtain rfl := h.replies_eq
    have hlength := h.length_le
    rw [List.length_cons, List.length_reverse] at hlength
    refine ⟨h, ?_, Nat.le_of_succ_le_succ hlength⟩
    intro replies o' h'
    exact (h'.unique h).2
  case submits =>
    intro r p
    obtain ⟨replies, h⟩ := DmaUnit.submits_submit r u hf
    obtain rfl := h.replies_eq
    have hlength := h.length_le
    rw [List.length_reverse] at hlength
    refine ⟨h, ?_, hlength⟩
    intro replies p' h'
    exact (h'.unique h).2
  case drains =>
    intro irq x hx hbound o t
    rw [DmaUnit.complete_answer, TransferLedger.retire_report_iff] at hx
    rcases hx with ⟨c, r, hirq, hr, rfl⟩
    have hown : s.channelOf? (f c) = some c := (hunshared.channelOf?_eq_some_iff _ c).2 hbound
    obtain ⟨replies, h⟩ := DmaUnit.completes_complete irq u hf
    obtain ⟨rfl, hledger, hstarts⟩ := h.drains hirq hr hown
    have hlt : c < s.capacity := Scheduler.lt_capacity_of_running? hr
    have ht : t = ({ s with idle := Bits.insert s.idle c, pending := [] } : Scheduler).assign c none :=
      congrArg TransferLedger.scheduler hledger
    have hbit : (Bits.insert s.idle c).getLsbD c = true := by
      have hfits := hsound.capacity_le
      rw [Bits.getLsbD_insert, Bool.or_eq_true, decide_eq_true_iff]
      exact .inr ⟨rfl, by omega⟩
    refine ⟨r, hr, h, hstarts, ?_, ?_, ?_, ?_, ?_, congrArg TransferLedger.completions hledger⟩
    · rw [ht]
      rfl
    · rw [ht]
      exact hbit
    · rw [ht]
      exact (Scheduler.running?_assign _ c c none).trans (if_pos ⟨rfl, hlt⟩)
    · rw [ht]
      rfl
    · intro i hi
      rw [ht]
      exact Scheduler.channels_assign_of_ne _ hi none
  case atOnce =>
    intro r hidle
    cases hlowest : Bits.lowest? s.idle with
    | none => exact absurd ((Bits.lowest?_eq_none_iff _).1 hlowest) hidle
    | some c =>
      refine ⟨c, rfl, ?_⟩
      intro hbound p
      have hown : s.channelOf? (f c) = some c := (hunshared.channelOf?_eq_some_iff _ c).2 hbound
      obtain ⟨replies, h⟩ := DmaUnit.submits_submit r u hf
      obtain ⟨rfl, hstarts, hledger⟩ := h.of_idle hsound hlowest hown
      have hscheduler := congrArg TransferLedger.scheduler hledger
      have hcompletions := congrArg TransferLedger.completions hledger
      exact ⟨h, hstarts, hscheduler, hcompletions⟩

/-- an engine that is done before its start returns is synchronous -/
theorem synchronous_promptEngine (e : PromptEngine) :
    TransferEngine.Synchronous (fun c => e.base + UInt32.ofNat c) e := by
  have hafter : ∀ (starts : List Start), TransferEngine.after e starts = e := by
    intro starts
    induction starts with
    | nil => rfl
    | cons start starts ih => exact ih
  intro earlier start
  rw [hafter]
  rfl

/-- four requests for two channels, which are bound to their interrupts when both are busy -/
def boundWhileBusy : List Op :=
  (List.range 4).map (fun i => .create (watchedRequest i).descriptor ⟨7⟩ true) ++
    (List.range 4).map (fun i => .submit (watchedRequest i)) ++ [.bind 32]

/-- the completion of the second request drains the queue through channel 1, and leaves the first request alone -/
theorem synchronous_engine_drains_boundWhileBusy :
    let u : DmaUnit PromptEngine := {
      toTransferLedger := ((fresh 2 3#32 (PromptEngine.mk 32) {} {}).run boundWhileBusy).toTransferLedger
      engine := PromptEngine.mk 32 }
    let o := u.complete 33
    TransferEngine.Synchronous (fun c => 32 + UInt32.ofNat c) (PromptEngine.mk 32) ∧
      o.1 = .ok ((watchedRequest 1).retiredOn 1) ∧ u.scheduler.bindings[1]? = some (some (32 + UInt32.ofNat 1)) ∧
      o.2.2.starts = [(watchedRequest 2).startOn 1, (watchedRequest 3).startOn 1] ∧ o.2.1.scheduler.pending = [] ∧
      o.2.1.scheduler.channels[0]? = u.scheduler.channels[0]? ∧
      u.scheduler.running? 0 = some (watchedRequest 0) := by
  intro u o
  have hsync := synchronous_promptEngine (PromptEngine.mk 32)
  have hdone : o.1 = .ok ((watchedRequest 1).retiredOn 1) := by rfl
  have hbound : u.scheduler.bindings[1]? = some (some (32 + UInt32.ofNat 1)) := by decide
  have hqueue : u.scheduler.pending = [watchedRequest 2, watchedRequest 3] := by decide
  obtain ⟨-, -, hdrains, -⟩ := synchronous_engine_drains 2 3#32 (PromptEngine.mk 32) {} {} boundWhileBusy
    (fun c => 32 + UInt32.ofNat c) (PromptEngine.mk 32) hsync
  obtain ⟨r, -, -, hstarts, -, -, -, hpending, hothers, -⟩ := hdrains 33 _ hdone hbound
  refine ⟨hsync, hdone, hbound, ?_, hpending, hothers 0 (by decide), by decide⟩
  rw [hstarts]
  exact congrArg (List.map fun q => q.startOn 1) hqueue

end Client
end BoardDriver
