/-
What becomes of a request: it waits, is on a channel, has been retired or has been dropped, and never two of these.

`Accounted` is the account of all requests handed in, with the retirements so far as its evidence: what moves a request
takes it from one column of the account and enters it in another. Requests made one after another have different
tickets, so a request that is handed in once is in one column once.

- `Scheduler.count_running_assign`: what a change of one channel does to the requests on channels;
- `Accounted.submit`, `Accounted.retire`, `Accounted.reset`: what moves a request;
- `accounted_of_posts`: every piece of bookkeeping keeps the account;
- `Client.kept_run`: every run keeps it, together with the pool, the order and the numbers;
- `Kept.fate`, `Kept.report_eq`, `Kept.isComplete_iff`: what the account says of a request, of its report and of its
  handle.
-/
import BoardDriver.Proofs.StartOrder
import BoardDriver.Proofs.Tickets

namespace BoardDriver

/-! ## Requests on channels -/

namespace Scheduler

variable {s t : Scheduler}

/-- what a channel gives up and takes over, whatever becomes of the idle map and of the queue -/
theorem count_running_assign {c : Nat} (hc : c < s.capacity) (idle : BitVec 32) (pending : List Request)
    (r? : Option Request) (q : Request) :
    (({ channels := s.channels, idle := idle, pending := pending } : Scheduler).assign c r?).running.count q +
      (s.running? c).toList.count q = s.running.count q + r?.toList.count q := by
  obtain ⟨before, ch, after, hl, hlen, hm⟩ := List.exists_of_modify (fun ch => { ch with inProgress := r? }) hc
  have hold : s.running? c = ch.inProgress := by
    rw [running?, hl, ← hlen]
    simp
  have hcount : ∀ x : Channel, ((before ++ x :: after).filterMap Channel.inProgress).count q =
      (before.filterMap Channel.inProgress ++ after.filterMap Channel.inProgress).count q +
        x.inProgress.toList.count q := by
    intro x
    cases hx : x.inProgress with
    | none => simp [hx]
    | some r =>
      simp [hx, List.count_cons]
      omega
  simp only [running, assign, modifyChannel]
  rw [hm, hl, hcount, hcount, hold]
  dsimp only
  omega

theorem running_reset (s : Scheduler) : s.reset.2.running = [] := by
  simp [running, reset, List.filterMap_map]

end Scheduler

theorem History.count_handIn {h : History} {r : Request} (hr : r ∈ h.held) (q : Request) :
    (h.handIn r).submitted.count q + (h.handIn r).held.count q = h.submitted.count q + h.held.count q := by
  have hperm := (List.perm_cons_erase hr).count_eq q
  simp only [handIn, List.count_append, List.count_cons, List.count_nil] at hperm ⊢
  omega

/-! ## The account -/

/-- every request handed in waits, is on a channel, has been retired or has been dropped, as often as it was handed in;
and `gone` are the retirements so far -/
structure Accounted (n₀ : Nat) (x : TransferLedger × History) (gone : List Completed) : Prop where
  handed : ∀ q, x.2.submitted.count q = x.1.scheduler.pending.count q + x.1.scheduler.running.count q +
    (gone.map Completed.request).count q + x.2.dropped.flatten.count q
  made : ∀ q, x.2.created.count q = x.2.submitted.count q + x.2.held.count q
  reported : x.2.reports = ↑(gone.map Completed.report)
  /-- a channel retires what it was started on -/
  started : ∀ d ∈ gone, d.request.startOn d.channel ∈ x.2.starts
  signalled : ∀ e, n₀ ≤ e → (x.1.completions.isComplete e = true ↔ ∃ d ∈ gone, d.request.completion = some e)

namespace Accounted

variable {n₀ : Nat} {x : TransferLedger × History} {gone : List Completed}

theorem submitted_of_running (a : Accounted n₀ x gone) {c : Nat} {r : Request}
    (hr : x.1.scheduler.running? c = some r) : r ∈ x.2.submitted := by
  have hmem := List.count_pos_iff.2 ((Scheduler.mem_running_iff _ _).2 ⟨c, hr⟩)
  have := a.handed r
  exact List.count_pos_iff.1 (by omega)

theorem submitted_of_gone (a : Accounted n₀ x gone) {d : Completed} (hd : d ∈ gone) : d.request ∈ x.2.submitted := by
  have hmem := List.count_pos_iff.2 (List.mem_map.2 ⟨d, hd, rfl⟩ : d.request ∈ gone.map Completed.request)
  have := a.handed d.request
  exact List.count_pos_iff.1 (by omega)

theorem created_of_submitted (a : Accounted n₀ x gone) {r : Request} (hr : r ∈ x.2.submitted) : r ∈ x.2.created := by
  have hmem := List.count_pos_iff.2 hr
  have := a.made r
  exact List.count_pos_iff.1 (by omega)

/-! ### Each piece of bookkeeping -/

variable {l m : TransferLedger} {h : History}

theorem create (a : Accounted n₀ (l, h) gone) (descriptor : TransferDescriptor) (cookie : Cookie) (watched : Bool) :
    Accounted n₀ ((l.newRequest descriptor cookie watched).2.2, h.make (l.newRequest descriptor cookie watched).1)
      gone := by
  refine ⟨?_, fun q => ?_, a.reported, a.started, fun e he => ?_⟩
  · rw [TransferLedger.scheduler_newRequest]
    exact a.handed
  · have hmade : h.created.count q = h.submitted.count q + h.held.count q := a.made q
    simp only [History.make, List.count_append]
    omega
  · have hadd : (l.newRequest descriptor cookie watched).2.2.completions.isComplete e =
        l.completions.isComplete e := by
      cases watched with
      | false => rfl
      | true => exact l.completions.isComplete_add e
    rw [hadd]
    exact a.signalled e he

theorem of_sameLoad (a : Accounted n₀ (l, h) gone) (e : Scheduler.SameLoad l.scheduler m.scheduler)
    (hc : m.completions = l.completions) : Accounted n₀ (m, h) gone := by
  refine ⟨?_, a.made, a.reported, a.started, ?_⟩
  · rw [e.pending, e.running]
    exact a.handed
  · rw [hc]
    exact a.signalled

theorem submit (a : Accounted n₀ (l, h) gone) (hs : l.scheduler.Sound) {r : Request} (hr : r ∈ h.held) :
    Accounted n₀ ((l.submit r).2, (h.handIn r).see (l.submit r).1.toList []) gone := by
  have hmade : ∀ q, h.created.count q = (h.handIn r).submitted.count q + (h.handIn r).held.count q := fun q =>
    (a.made q).trans (History.count_handIn hr q).symm
  have hreported : ((h.handIn r).see (l.submit r).1.toList []).reports = h.reports := by
    simp [History.see, History.handIn]
  refine ⟨fun q => ?_, hmade, hreported.trans a.reported, fun d hd => List.mem_append_left _ (a.started d hd),
    a.signalled⟩
  have hq := a.handed q
  simp only at hq
  cases hl : Bits.lowest? l.scheduler.idle with
  | none =>
    simp only [TransferLedger.submit, Scheduler.submit_of_busy hl, History.see, History.handIn, List.count_append]
    simp only [Scheduler.running] at hq ⊢
    omega
  | some ch =>
    obtain ⟨hlt, hfree, -⟩ := hs.of_lowest? hl
    have hcount := Scheduler.count_running_assign hlt (Bits.erase l.scheduler.idle ch) l.scheduler.pending (some r) q
    rw [hfree] at hcount
    simp only [Option.toList_none, Option.toList_some, List.count_nil] at hcount
    simp only [TransferLedger.submit, Scheduler.submit_of_idle hl, History.see, History.handIn, List.count_append,
      Scheduler.pending_assign]
    omega

/-- a retirement moves a request from its channel to those gone, and the next one from the queue to the channel -/
theorem retire {t₀ : TicketCounter} {left : List Departure} (a : Accounted n₀ (l, h) gone) (o : Ordered (l, h) left)
    (n : Numbered t₀ n₀ (l, h)) {irq : UInt32} {done : Completed} (hd : l.retire irq = .ok (done, m)) :
    Accounted n₀ (m, h.see done.next.toList [done.report]) (gone ++ [done]) := by
  obtain ⟨hc, -, hcomp⟩ := TransferLedger.retire_cases hd
  obtain ⟨-, hr, hcase⟩ := Scheduler.complete_cases hc
  have hlt := Scheduler.lt_capacity_of_running? hr
  refine ⟨fun q => ?_, a.made, ?_, fun d hd => ?_, fun e he => ?_⟩
  · have hq := a.handed q
    simp only [History.see, List.map_append, List.map_singleton, List.count_append, List.count_singleton] at hq ⊢
    rcases hcase with ⟨next, rest, hp, -, hm⟩ | ⟨hp, -, hm⟩
    · have hcount := Scheduler.count_running_assign hlt l.scheduler.idle rest (some next) q
      rw [hr, ← hm] at hcount
      have hpend : m.scheduler.pending = rest := congrArg Scheduler.pending hm
      simp only [Option.toList_some, List.count_singleton] at hcount
      rw [hp, List.count_cons] at hq
      rw [hpend]
      omega
    · have hcount := Scheduler.count_running_assign hlt (Bits.insert l.scheduler.idle done.channel)
        l.scheduler.pending none q
      rw [hr, ← hm] at hcount
      have hpend : m.scheduler.pending = l.scheduler.pending := by rw [hm]; exact rfl
      simp only [Option.toList_some, Option.toList_none, List.count_singleton, List.count_nil] at hcount
      rw [hpend]
      omega
  · have hrep : h.reports = ↑(gone.map Completed.report) := a.reported
    simp only [History.see, hrep, List.map_append, List.map_singleton, ← Multiset.coe_add]
  · rcases List.mem_append.1 hd with hd | hd
    · exact List.mem_append_left _ (a.started d hd)
    · rw [List.mem_singleton.1 hd]
      exact List.mem_append_left _ (mem_of_lastStart? (o.current _ _ hr))
  · have hmem := a.created_of_submitted (a.submitted_of_running hr)
    have hentry := fun e he => (n.entry_bounds hmem (e := e) he).2
    simp only [hcomp, CompletionTable.isComplete_signal _ _ _ hentry, a.signalled e he]
    simp only [List.mem_append, List.mem_singleton, or_and_right, exists_or, exists_eq_left]

theorem reset (a : Accounted n₀ (l, h) gone) :
    Accounted n₀ (l.reset.2, h.drop (l.scheduler.running ++ l.scheduler.pending)) gone := by
  refine ⟨fun q => ?_, a.made, a.reported, a.started, a.signalled⟩
  have hq := a.handed q
  have hempty : l.reset.2.scheduler.running = [] := l.scheduler.running_reset
  have hnone : l.reset.2.scheduler.pending = [] := rfl
  simp only [hempty, hnone, History.drop, List.flatten_append, List.flatten_singleton, List.count_append,
    List.count_nil] at hq ⊢
  omega

end Accounted

/-- every piece of bookkeeping keeps the account -/
theorem accounted_of_posts {t₀ : TicketCounter} {n₀ : Nat} (x y : TransferLedger × History) (p : Posts x y)
    (hs : x.1.scheduler.Sound) {left : List Departure} (o : Ordered x left) (n : Numbered t₀ n₀ x)
    {gone : List Completed} (a : Accounted n₀ x gone) : ∃ gone', Accounted n₀ y gone' := by
  cases p with
  | create l h descriptor cookie watched => exact ⟨gone, a.create descriptor cookie watched⟩
  | submit l h hr => exact ⟨gone, a.submit hs hr⟩
  | retire h hd => exact ⟨_, a.retire o n hd⟩
  | enable l h channel irq =>
    exact ⟨gone, a.of_sameLoad (l.sameLoad_enable channel irq) (l.dealt_enable channel irq).2⟩
  | bind l h base => exact ⟨gone, a.of_sameLoad (l.sameLoad_bindInterrupts base) rfl⟩
  | reset l h => exact ⟨gone, a.reset⟩

/-! ## What the account says -/

/-- the number of completions that answered with the request -/
def History.reportsOf (h : History) (r : Request) : Nat := h.reports.countP fun x => x.ticket = r.ticket

/-- all that a run keeps: the pool in step, the order of departures, the numbers dealt and the account -/
structure Kept (s₀ : Scheduler) (t₀ : TicketCounter) (n₀ : Nat) (left : List Departure) (gone : List Completed)
    (x : TransferLedger × History) : Prop where
  inStep : InStep s₀ x
  ordered : Ordered x left
  numbered : Numbered t₀ n₀ x
  accounted : Accounted n₀ x gone

namespace Kept

variable {s₀ : Scheduler} {t₀ : TicketCounter} {n₀ : Nat} {left : List Departure} {gone : List Completed}
  {x : TransferLedger × History}

theorem posts {y : TransferLedger × History} (k : Kept s₀ t₀ n₀ left gone x) (p : Posts x y) :
    ∃ left' gone', Kept s₀ t₀ n₀ left' gone' y := by
  obtain ⟨later, o⟩ := ordered_of_posts x y p k.inStep.sound k.ordered
  obtain ⟨gone', a⟩ := accounted_of_posts x y p k.inStep.sound k.ordered k.numbered k.accounted
  exact ⟨left ++ later, gone', inStep_of_posts x y p k.inStep, o, numbered_of_posts x y p k.numbered, a⟩

theorem report_cases (k : Kept s₀ t₀ n₀ left gone x) {y : Retired} (hy : y ∈ x.2.reports) :
    ∃ r ∈ x.2.submitted, y = r.retiredOn y.channel ∧ r.startOn y.channel ∈ x.2.starts := by
  rw [k.accounted.reported] at hy
  obtain ⟨d, hd, rfl⟩ := List.mem_map.1 (Multiset.mem_coe.1 hy)
  exact ⟨d.request, k.accounted.submitted_of_gone hd, rfl, k.accounted.started d hd⟩

section

variable (k : Kept s₀ t₀ n₀ left gone x) (hc : x.2.created.length ≤ 2 ^ 31)
include k hc

/-- a ticket names one request -/
theorem eq_of_ticket {r q : Request} (hr : r ∈ x.2.created) (hq : q ∈ x.2.created) (h : r.ticket = q.ticket) : r = q :=
  List.inj_on_of_nodup_map (k.numbered.nodup_tickets hc) hr hq h

theorem count_submitted {r : Request} (hr : r ∈ x.2.submitted) : x.2.submitted.count r = 1 := by
  have hone := List.nodup_iff_count_le_one.1 (k.numbered.nodup_tickets hc).of_map r
  have hmade := k.accounted.made r
  have hpos := List.count_pos_iff.2 hr
  omega

theorem reportsOf_eq {r : Request} (hr : r ∈ x.2.created) :
    x.2.reportsOf r = (gone.map Completed.request).count r := by
  rw [History.reportsOf, k.accounted.reported, Multiset.coe_countP, List.countP_map, List.count, List.countP_map]
  refine List.countP_congr fun d hd => ?_
  have hd' := k.accounted.created_of_submitted (k.accounted.submitted_of_gone hd)
  simp only [Function.comp_apply, decide_eq_true_eq, beq_iff_eq]
  exact ⟨k.eq_of_ticket hc hd' hr, fun h => congrArg Request.ticket h⟩

/-- a request handed in has one fate, once -/
theorem fate {r : Request} (hr : r ∈ x.2.submitted) :
    x.1.scheduler.pending.count r + x.1.scheduler.running.count r + x.2.reportsOf r + x.2.dropped.flatten.count r =
      1 := by
  rw [k.reportsOf_eq hc (k.accounted.created_of_submitted hr), ← k.accounted.handed r]
  exact k.count_submitted hc hr

theorem nodup_submitted : (x.2.submitted.map Request.ticket).Nodup := by
  have hnodup : x.2.submitted.Nodup := by
    refine List.nodup_iff_count_le_one.2 fun r => ?_
    by_cases hr : r ∈ x.2.submitted
    · exact Nat.le_of_eq (k.count_submitted hc hr)
    · exact Nat.le_trans (Nat.le_of_eq (List.count_eq_zero.2 hr)) (Nat.zero_le 1)
  exact hnodup.map_on fun r hr q hq h =>
    k.eq_of_ticket hc (k.accounted.created_of_submitted hr) (k.accounted.created_of_submitted hq) h

/-- a request is started once at most -/
theorem nodup_starts : (x.2.starts.map Start.ticket).Nodup := by
  have hleft : (left.map Departure.request).Sublist x.2.submitted :=
    k.ordered.handed ▸ List.sublist_append_left _ _
  rw [k.ordered.told]
  exact ((tickets_sublist left).trans (hleft.map Request.ticket)).nodup (k.nodup_submitted hc)

/-- a report names the channel that its request was started on -/
theorem report_eq {r : Request} {ch : Nat} (hr : r ∈ x.2.submitted) (hs : r.startOn ch ∈ x.2.starts) {y : Retired}
    (hy : y ∈ x.2.reports) (h : y.ticket = r.ticket) : y = r.retiredOn ch := by
  obtain ⟨q, hq, hyq, hqs⟩ := k.report_cases hy
  have hqr : q.ticket = r.ticket := (congrArg Retired.ticket hyq).symm.trans h
  obtain rfl := k.eq_of_ticket hc (k.accounted.created_of_submitted hq) (k.accounted.created_of_submitted hr) hqr
  have hstart : q.startOn y.channel = q.startOn ch := List.inj_on_of_nodup_map (k.nodup_starts hc) hqs hs rfl
  exact hyq.trans (congrArg q.retiredOn (congrArg Start.channel hstart))

/-- a handle is complete when its request has been retired, and only then -/
theorem isComplete_iff {r : Request} {e : Nat} (hr : r ∈ x.2.created) (he : r.completion = some e) :
    x.1.completions.isComplete e = true ↔ x.2.reportsOf r = 1 := by
  rw [k.accounted.signalled e (k.numbered.entry_bounds hr he).1, k.reportsOf_eq hc hr]
  constructor
  · rintro ⟨d, hd, hde⟩
    have hsub := k.accounted.submitted_of_gone hd
    obtain rfl := k.numbered.eq_of_completion (k.accounted.created_of_submitted hsub) hr hde he
    have hpos : 0 < (gone.map Completed.request).count d.request := List.count_pos_iff.2 (List.mem_map_of_mem hd)
    have hone := k.count_submitted hc hsub
    have hall := k.accounted.handed d.request
    omega
  · intro hone
    obtain ⟨d, hd, rfl⟩ := List.mem_map.1 (List.count_pos_iff.1 (Nat.lt_of_lt_of_eq Nat.zero_lt_one hone.symm))
    exact ⟨d, hd, he⟩

end
end Kept

/-- nothing handed in or started is forgotten -/
theorem grows_of_posts (x y : TransferLedger × History) (p : Posts x y) :
    x.2.submitted ⊆ y.2.submitted ∧ x.2.starts ⊆ y.2.starts := by
  cases p with
  | submit l h _ => exact ⟨List.subset_append_left _ _, List.subset_append_left _ _⟩
  | retire h _ => exact ⟨List.Subset.refl _, List.subset_append_left _ _⟩
  | _ => exact ⟨List.Subset.refl _, List.Subset.refl _⟩

namespace Client

variable {ε : Type}

theorem kept_fresh (channels : Nat) (idle : BitVec 32) (engine : ε) (tickets : TicketCounter)
    (completions : CompletionTable) :
    Kept (.fresh channels idle) tickets completions.entries.length [] []
      (fresh channels idle engine tickets completions).books where
  inStep := inStep_fresh channels idle engine tickets completions
  ordered := ordered_fresh channels idle engine tickets completions
  numbered := ⟨tickets.after_zero.symm, rfl, rfl, rfl⟩
  accounted := by
    have hempty : (Scheduler.fresh channels idle).running = [] := by simp [Scheduler.running, Scheduler.fresh]
    refine ⟨fun q => ?_, fun q => rfl, rfl, by simp, fun e he => ?_⟩
    · simp only [books, fresh, hempty]
      rfl
    · simp [books, fresh, CompletionTable.isComplete, List.getElem?_eq_none he]

variable [TransferEngine ε]

theorem kept_run (channels : Nat) (idle : BitVec 32) (engine : ε) (tickets : TicketCounter)
    (completions : CompletionTable) (ops : List Op) :
    ∃ left gone, Kept (.fresh channels idle) tickets completions.entries.length left gone
      ((fresh channels idle engine tickets completions).run ops).books :=
  run_induction
    (P := fun x => ∃ left gone, Kept (.fresh channels idle) tickets completions.entries.length left gone x)
    (fun _ _ p hk => hk.elim fun _ hk => hk.elim fun _ k => k.posts p) _ ops
    ⟨[], [], kept_fresh channels idle engine tickets completions⟩

theorem grows_run (c : Client ε) (ops : List Op) :
    c.submitted ⊆ (c.run ops).submitted ∧ c.starts ⊆ (c.run ops).starts :=
  run_induction (P := fun x => c.submitted ⊆ x.2.submitted ∧ c.starts ⊆ x.2.starts)
    (fun x y p h =>
      ⟨List.Subset.trans h.1 (grows_of_posts x y p).1, List.Subset.trans h.2 (grows_of_posts x y p).2⟩) c ops
    ⟨List.Subset.refl _, List.Subset.refl _⟩

/-- **Every request has one fate.** After every run of a client of a new unit that made at most 2 ^ 31 requests,
whatever its engine does:
- a request handed in waits, is on one channel, has been retired by one completion or dropped by one reset;
- different requests have different tickets, and each is started once at most;
- a report is that of a request handed in and of the channel it was started on, which is the one it was ever seen on; an
  interrupt is answered with the request of the channel it is bound to;
- a handle is complete if its request has been retired, and only then; and it stays complete;
- a reset answers with the number of requests on channels and waiting. -/
theorem request_fate (channels : Nat) (idle : BitVec 32) (engine : ε) (tickets : TicketCounter)
    (completions : CompletionTable) (ops : List Op)
    (few : ((fresh channels idle engine tickets completions).run ops).created.length ≤ 2 ^ 31) :
    let c := (fresh channels idle engine tickets completions).run ops
    (∀ r ∈ c.submitted, c.scheduler.pending.count r + c.scheduler.running.count r + c.reportsOf r +
      c.dropped.flatten.count r = 1) ∧
    (c.created.map Request.ticket).Nodup ∧
    (c.starts.map Start.ticket).Nodup ∧
    (∀ x ∈ c.reports, ∃ r ∈ c.submitted, x = r.retiredOn x.channel ∧ r.startOn x.channel ∈ c.starts) ∧
    (∀ before after, ops = before ++ after →
      ∀ ch r, ((fresh channels idle engine tickets completions).run before).scheduler.running? ch = some r →
        r ∈ c.submitted ∧ r.startOn ch ∈ c.starts ∧ ∀ x ∈ c.reports, x.ticket = r.ticket → x = r.retiredOn ch) ∧
    (∀ irq x, (c.toDmaUnit.complete irq).1 = .ok x ↔
      ∃ ch r, c.scheduler.channelOf? irq = some ch ∧ c.scheduler.running? ch = some r ∧ x = r.retiredOn ch) ∧
    (∀ r ∈ c.created, ∀ e, r.completion = some e →
      (c.completions.isComplete e = true ↔ c.reportsOf r = 1)) ∧
    (∀ e more, c.completions.isComplete e = true → (c.run more).completions.isComplete e = true) ∧
    c.toTransferLedger.reset.1 = c.scheduler.running.length + c.scheduler.pending.length := by
  intro c
  obtain ⟨left, gone, k⟩ := kept_run channels idle engine tickets completions ops
  refine ⟨fun r hr => k.fate few hr, k.numbered.nodup_tickets few, k.nodup_starts few, fun x hx => ?_,
    fun before after hops ch r hr => ?_, fun irq x => ?_, fun r hr e he => k.isComplete_iff few hr he,
    fun e more he => run_induction isComplete_of_posts c more he, ?_⟩
  · exact k.report_cases hx
  · obtain ⟨left', gone', k'⟩ := kept_run channels idle engine tickets completions before
    have hgrows := grows_run ((fresh channels idle engine tickets completions).run before) after
    rw [← run_append, ← hops] at hgrows
    have hsub : r ∈ c.submitted := hgrows.1 (k'.accounted.submitted_of_running hr)
    have hstart : r.startOn ch ∈ c.starts := hgrows.2 (mem_of_lastStart? (k'.ordered.current ch r hr))
    exact ⟨hsub, hstart, fun x hx h => k.report_eq few hsub hstart hx h⟩
  · rw [DmaUnit.complete_answer]
    exact TransferLedger.retire_report_iff c.toTransferLedger irq x
  · rw [← Scheduler.inFlightCount_eq]
    rfl

end Client

/-! ## A request that is retired from inside its start -/

/-- an engine that is done with a transfer before its start returns -/
structure PromptEngine where
  /-- interrupt of channel 0 -/
  base : UInt32

instance : TransferEngine PromptEngine where
  start _ := Action.pure ()
  raises e start := [e.base + UInt32.ofNat start.channel]

namespace Client

/-- the request with ticket `i + 1` and handle `i` -/
def watchedRequest (i : Nat) : Request where
  descriptor := { source := 0, destination := 0x1000, length := 64, direction := .down }
  ticket := ⟨UInt32.ofNat (i + 1)⟩
  cookie := ⟨7⟩
  completion := some i

/-- two requests for one channel, which is bound to its interrupt after the first has been started -/
def lateBinding : List Op :=
  [.create (watchedRequest 0).descriptor ⟨7⟩ true, .create (watchedRequest 1).descriptor ⟨7⟩ true,
   .submit (watchedRequest 0), .submit (watchedRequest 1), .bind 32, .complete 32]

/-- the completion of the first request starts the second one, which is retired there and then -/
theorem request_fate_lateBinding :
    let c := (fresh 1 1#32 (PromptEngine.mk 32) {} {}).run lateBinding
    c.created.length ≤ 2 ^ 31 ∧ watchedRequest 1 ∈ c.submitted ∧ c.completions.isComplete 1 = true ∧
      c.reportsOf (watchedRequest 1) = 1 := by
  intro c
  have few : c.created.length ≤ 2 ^ 31 := by decide
  have hmade : watchedRequest 1 ∈ c.created := by decide
  have hdone : c.completions.isComplete 1 = true := by decide
  obtain ⟨-, -, -, -, -, -, hhandles, -⟩ := request_fate 1 1#32 (PromptEngine.mk 32) {} {} lateBinding few
  exact ⟨few, by decide, hdone, (hhandles _ hmade 1 rfl).1 hdone⟩

end Client
end BoardDriver
