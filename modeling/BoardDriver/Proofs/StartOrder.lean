/-
The order of starts: requests are started in the order they were handed in.

A request leaves the queue for a channel, or it is dropped; a request that finds a channel idle leaves at once. Since
nothing waits while a channel is idle, no request overtakes another: the requests handed in are those that have left,
in order, and then the queue (`Ordered`).

- `Ordered.push`: a departure for a channel keeps the order;
- `Ordered.submit`, `Ordered.retire`, `Ordered.reset`: who departs;
- `ordered_of_posts`: every piece of bookkeeping keeps it;
- `Client.ordered_run_append`: a run keeps it, and what has left by then; the last theorem says what that comes to.
-/
import BoardDriver.Proofs.ChannelPool
import BoardDriver.Proofs.EngineRecord

namespace BoardDriver

/-! ## Starts -/

def lastStart? (starts : List Start) (channel : Nat) : Option Start :=
  (starts.filter fun s => s.channel == channel).getLast?

theorem lastStart?_snoc (starts : List Start) (s : Start) (channel : Nat) :
    lastStart? (starts ++ [s]) channel = if channel = s.channel then some s else lastStart? starts channel := by
  by_cases h : s.channel = channel
  · simp [lastStart?, h]
  · simp [lastStart?, h, Ne.symm h]

theorem mem_of_lastStart? {starts : List Start} {s : Start} {channel : Nat} (h : lastStart? starts channel = some s) :
    s ∈ starts :=
  (List.mem_filter.1 (List.mem_of_getLast? h)).1

/-- a request that waits no longer, and the channel that it went to, unless it was dropped -/
structure Departure where
  request : Request
  channel : Option Nat
  deriving DecidableEq

/-- the start of the request, unless it was dropped -/
def Departure.start? (d : Departure) : Option Start := d.channel.map d.request.startOn

theorem tickets_sublist (left : List Departure) :
    ((left.filterMap Departure.start?).map Start.ticket).Sublist ((left.map Departure.request).map Request.ticket) := by
  induction left with
  | nil => exact .slnil
  | cons d left ih =>
    cases hd : d.channel with
    | none => simpa [Departure.start?, hd] using ih.cons d.request.ticket
    | some ch => simpa [Departure.start?, hd, Request.startOn] using ih

/-- the requests that have left, with the queue behind them, are those handed in; the engine was told their starts, and
the last one of each channel is that of the request it carries out -/
structure Ordered (x : TransferLedger × History) (left : List Departure) : Prop where
  handed : x.2.submitted = left.map Departure.request ++ x.1.scheduler.pending
  told : x.2.starts = left.filterMap Departure.start?
  /-- only a reset drops a request that waits -/
  unbroken : x.2.dropped = [] → ∀ d ∈ left, d.channel.isSome
  current : ∀ c r, x.1.scheduler.running? c = some r → lastStart? x.2.starts c = some (r.startOn c)

namespace Ordered

variable {l m : TransferLedger} {h g : History} {left : List Departure}

/-- nothing departs, and no channel gets another request -/
theorem keep (o : Ordered (l, h) left) (hsub : g.submitted = h.submitted) (hst : g.starts = h.starts)
    (hdr : g.dropped = [] → h.dropped = []) (hpend : m.scheduler.pending = l.scheduler.pending)
    (hrun : ∀ c r, m.scheduler.running? c = some r → l.scheduler.running? c = some r) : Ordered (m, g) left where
  handed := hsub.trans (o.handed.trans (congrArg _ hpend.symm))
  told := hst.trans o.told
  unbroken hd := o.unbroken (hdr hd)
  current c r hr := (congrArg (lastStart? · c) hst).trans (o.current c r (hrun c r hr))

/-- the next request in order goes to a channel -/
theorem push (o : Ordered (l, h) left) (r : Request) (ch : Nat)
    (hsub : g.submitted = left.map Departure.request ++ r :: m.scheduler.pending)
    (hst : g.starts = h.starts ++ [r.startOn ch]) (hdr : g.dropped = h.dropped)
    (hrun : ∀ c q, m.scheduler.running? c = some q → c = ch ∧ q = r ∨ c ≠ ch ∧ l.scheduler.running? c = some q) :
    Ordered (m, g) (left ++ [⟨r, some ch⟩]) where
  handed := by rw [hsub, List.map_append, List.append_assoc]; rfl
  told := by rw [hst, o.told, List.filterMap_append]; rfl
  unbroken hd := by
    rw [List.forall_mem_append]
    exact ⟨o.unbroken (hdr ▸ hd), by simp⟩
  current c q hq := by
    rw [hst, lastStart?_snoc]
    rcases hrun c q hq with ⟨rfl, rfl⟩ | ⟨hne, hq⟩
    · exact if_pos rfl
    · exact (if_neg hne).trans (o.current c q hq)

theorem still {x : TransferLedger × History} (o : Ordered x left) : ∃ later, Ordered x (left ++ later) :=
  ⟨[], by rwa [List.append_nil]⟩

/-! ### Each piece of bookkeeping -/

theorem of_sameLoad (o : Ordered (l, h) left) (e : Scheduler.SameLoad l.scheduler m.scheduler) :
    Ordered (m, h) left :=
  o.keep rfl rfl id e.pending fun c _ hr => (e.running? c).symm.trans hr

theorem submit (o : Ordered (l, h) left) (hs : l.scheduler.Sound) (r : Request) :
    ∃ later, Ordered ((l.submit r).2, (h.handIn r).see (l.submit r).1.toList []) (left ++ later) := by
  have hhanded : h.submitted = left.map Departure.request ++ l.scheduler.pending := o.handed
  cases hl : Bits.lowest? l.scheduler.idle with
  | none =>
    have hsub := Scheduler.submit_of_busy hl r
    refine Ordered.still ⟨?_, ?_, o.unbroken, ?_⟩
    · simp only [TransferLedger.submit, hsub, History.see, History.handIn, ← List.append_assoc]
      rw [hhanded]
    · simpa [TransferLedger.submit, hsub, History.see, History.handIn] using o.told
    · simpa [TransferLedger.submit, hsub, History.see, History.handIn] using o.current
  | some ch =>
    -- the channel is idle, so nothing waits and the request is next in order
    obtain ⟨hlt, -, hpend⟩ := hs.of_lowest? hl
    have hsub := Scheduler.submit_of_idle hl r
    have hnew : (l.submit r).2.scheduler = { l.scheduler with idle := Bits.erase l.scheduler.idle ch }.assign ch
        (some r) := congrArg Prod.snd hsub
    refine ⟨_, o.push r ch ?_ ?_ rfl fun c q hq => ?_⟩
    · rw [hpend, List.append_nil] at hhanded
      simp [hnew, hpend, History.see, History.handIn, hhanded]
    · simp [TransferLedger.submit, hsub, History.see, History.handIn]
    · rw [hnew] at hq
      exact Scheduler.running?_assign_cases hlt hq

theorem retire (o : Ordered (l, h) left) {irq : UInt32} {done : Completed} (hd : l.retire irq = .ok (done, m)) :
    ∃ later, Ordered (m, h.see done.next.toList [done.report]) (left ++ later) := by
  obtain ⟨hc, -, -⟩ := TransferLedger.retire_cases hd
  obtain ⟨-, hr, hcase⟩ := Scheduler.complete_cases hc
  rcases hcase with ⟨next, rest, hp, hn, hm⟩ | ⟨hp, hn, hm⟩
  · have hhanded : h.submitted = left.map Departure.request ++ l.scheduler.pending := o.handed
    refine ⟨_, o.push next done.channel ?_ ?_ rfl fun c q hq => ?_⟩
    · simpa [hm, hp, History.see] using hhanded
    · simp [hn, History.see]
    · rw [hm] at hq
      exact Scheduler.running?_assign_cases (Scheduler.lt_capacity_of_running? hr) hq
  · refine Ordered.still (o.keep rfl ?_ id ?_ fun c q hq => ?_)
    · simp [hn, History.see]
    · rw [hm]
      exact rfl
    · rw [hm, Scheduler.running?_assign] at hq
      split at hq
      · cases hq
      · exact hq

theorem reset (o : Ordered (l, h) left) :
    ∃ later, Ordered (l.reset.2, h.drop (l.scheduler.running ++ l.scheduler.pending)) (left ++ later) := by
  have hdropped : (l.scheduler.pending.map fun r => (⟨r, none⟩ : Departure)).filterMap Departure.start? = [] := by
    simp [List.filterMap_map, Function.comp_def, Departure.start?]
  refine ⟨l.scheduler.pending.map fun r => ⟨r, none⟩, ?_, ?_, fun hd => ?_, fun c r hr => ?_⟩
  · have hhanded : h.submitted = left.map Departure.request ++ l.scheduler.pending := o.handed
    simp [History.drop, TransferLedger.reset, Scheduler.reset, hhanded, Function.comp_def]
  · rw [List.filterMap_append, hdropped, List.append_nil]
    exact o.told
  · simp [History.drop] at hd
  · cases (Scheduler.running?_reset l.scheduler c).symm.trans hr

end Ordered

/-- every piece of bookkeeping keeps the order, and what has left stays as it is -/
theorem ordered_of_posts (x y : TransferLedger × History) (p : Posts x y) (hs : x.1.scheduler.Sound)
    {left : List Departure} (o : Ordered x left) : ∃ later, Ordered y (left ++ later) := by
  cases p with
  | create l h descriptor cookie watched =>
    have hl := l.scheduler_newRequest descriptor cookie watched
    exact Ordered.still (o.keep rfl rfl id (by rw [hl]) (by simp))
  | submit l h _ => exact o.submit hs _
  | retire h hd => exact o.retire hd
  | enable l h channel irq => exact (o.of_sameLoad (l.sameLoad_enable channel irq)).still
  | bind l h base => exact (o.of_sameLoad (l.sameLoad_bindInterrupts base)).still
  | reset l h => exact o.reset

namespace Client

variable {ε : Type} [TransferEngine ε]

omit [TransferEngine ε] in
theorem ordered_fresh (channels : Nat) (idle : BitVec 32) (engine : ε) (tickets : TicketCounter)
    (completions : CompletionTable) : Ordered (fresh channels idle engine tickets completions).books [] :=
  ⟨rfl, rfl, fun _ => by simp, fun c r hr => by cases (Scheduler.running?_fresh channels idle c).symm.trans hr⟩

/-- departures are final: the order of a run goes on in every longer run -/
theorem ordered_run_append {s₀ : Scheduler} (c : Client ε) (ops : List Op) {left : List Departure}
    (i : InStep s₀ c.books) (o : Ordered c.books left) : ∃ later, Ordered (c.run ops).books (left ++ later) := by
  refine (run_induction (P := fun x => InStep s₀ x ∧ ∃ later, Ordered x (left ++ later)) (fun x y p hx => ?_) c ops
    ⟨i, o.still⟩).2
  obtain ⟨i, later, o⟩ := hx
  obtain ⟨more, o'⟩ := ordered_of_posts x y p i.sound o
  exact ⟨inStep_of_posts x y p i, later ++ more, List.append_assoc left later more ▸ o'⟩

theorem ordered_run (channels : Nat) (idle : BitVec 32) (engine : ε) (tickets : TicketCounter)
    (completions : CompletionTable) (ops : List Op) :
    ∃ left, Ordered ((fresh channels idle engine tickets completions).run ops).books left :=
  ordered_run_append _ ops (inStep_fresh channels idle engine tickets completions)
    (ordered_fresh channels idle engine tickets completions)

/-- **Requests are started in the order they were handed in.** After every run of a client of a new unit, whatever its
engine does:
- those handed in are those that have left the queue, in order, and then the queue; the starts are those of the requests
  that left for a channel, which are all that left unless there was a reset; what has left stays so in a longer run;
- a request handed in while a channel is idle is started at once, on the lowest idle channel;
- the last start of a channel is that of the request it carries out;
- the starts are those that the engine was told: one that keeps a record of them has recorded these, and nothing else is
  different. -/
theorem starts_in_order (channels : Nat) (idle : BitVec 32) (engine : ε) (tickets : TicketCounter)
    (completions : CompletionTable) (ops : List Op) :
    let c := (fresh channels idle engine tickets completions).run ops
    (∃ left : List Departure,
      c.submitted = left.map Departure.request ++ c.scheduler.pending ∧
      c.starts = left.filterMap Departure.start? ∧
      (Op.reset ∉ ops → ∀ d ∈ left, d.channel.isSome) ∧
      ∀ more, ∃ later,
        (c.run more).submitted = (left ++ later).map Departure.request ++ (c.run more).scheduler.pending ∧
        (c.run more).starts = (left ++ later).filterMap Departure.start?) ∧
    (∀ r ∈ c.held, ∀ ch, c.scheduler.idle.getLsbD ch = true → (∀ i < ch, c.scheduler.idle.getLsbD i = false) →
      ∃ ss, (c.step (.submit r)).starts = c.starts ++ r.startOn ch :: ss) ∧
    (∀ ch r, c.scheduler.running? ch = some r → lastStart? c.starts ch = some (r.startOn ch)) ∧
    (fresh channels idle ({ engine := engine } : RecordingEngine ε) tickets completions).run ops = c.recording := by
  intro c
  have i : InStep _ c.books := inStep_run channels idle engine tickets completions ops
  obtain ⟨left, o⟩ := ordered_run channels idle engine tickets completions ops
  refine ⟨⟨left, o.handed, o.told, fun hr => ?_, fun more => ?_⟩, fun r hr ch hi hlow => ?_, o.current,
    run_recording (fresh channels idle engine tickets completions) ops⟩
  · exact o.unbroken ((dropped_run_eq_nil_iff _ ops).2 ⟨rfl, hr⟩)
  · obtain ⟨later, o'⟩ := ordered_run_append c more i o
    exact ⟨later, o'.handed, o'.told⟩
  · have hl := (Bits.lowest?_eq_some_iff _ _).2 ⟨hi, hlow⟩
    obtain ⟨ss, hss, -⟩ := DmaUnit.submit_settles r c.toDmaUnit
    have first : (c.toTransferLedger.submit r).1 = some (r.startOn ch) :=
      congrArg Prod.fst (Scheduler.submit_of_idle hl r)
    refine ⟨ss, ?_⟩
    simp only [step, if_pos hr, History.see, History.handIn, hss, first, Option.toList_some, List.singleton_append]

end Client
end BoardDriver
