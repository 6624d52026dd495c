/-
A unit that has been reset, beside a new one.

Nothing of what a unit went through outlives a reset but the interrupts its channels are bound to, and these hang on the
bindings that were asked for, on no request. So a new unit of the same size, all of its channels idle and bound alike,
holds the same books, and from then on the two cannot be told apart.

- `Client.bindings_run`: the bindings of a run are those of its binding operations alone;
- `DmaUnit.scheduler_after_binding`: a new unit, bound like one that has been reset, holds the same books.
-/
import BoardDriver.Proofs.Correspondence
import BoardDriver.Proofs.RequestFate

namespace BoardDriver

/-! ## Books without requests -/

theorem TransferLedger.Retires.bindings {l m : TransferLedger} {ds : List Completed} (h : l.Retires ds m) :
    m.scheduler.bindings = l.scheduler.bindings := by
  induction h with
  | nil => rfl
  | cons hd _ ih => exact ih.trans (Scheduler.bindings_complete (retire_cases hd).1)

namespace Scheduler

variable {s t : Scheduler}

/-- the bindings, the slots, the idle map and the queue are all there is -/
theorem eq_of_bindings_of_sameLoad (hb : s.bindings = t.bindings) (load : SameLoad s t) : s = t := by
  have hchannels : s.channels = t.channels := by
    refine List.ext_getElem? fun i => ?_
    have hirq := congrArg (·[i]?) hb
    have hslot := congrArg (·[i]?) load.slots
    simp only [bindings, List.getElem?_map] at hirq hslot
    revert hirq hslot
    rcases s.channels[i]? with _ | ⟨irq, r⟩ <;> rcases t.channels[i]? with _ | ⟨irq', r'⟩ <;> intro hirq hslot <;>
      cases hirq <;> cases hslot <;> rfl
  obtain ⟨channels, idle, pending⟩ := s
  obtain ⟨hidle, hpending, -⟩ := load
  cases hchannels
  cases hidle
  cases hpending
  rfl

/-- a scheduler that has been reset carries the load of a new one, of the same size and with every channel idle -/
theorem sameLoad_fresh_reset (h : s.capacity ≤ 32) : SameLoad (fresh s.capacity (BitVec.allOnes 32)) s.reset.2 where
  idle := by
    have hmin : min s.capacity maxDmaChannels = s.capacity := Nat.min_eq_left h
    simp only [fresh, reset, hmin, BitVec.allOnes_and]
  pending := rfl
  slots := by
    have hmin : min s.channels.length maxDmaChannels = s.channels.length := Nat.min_eq_left h
    simp [fresh, reset, hmin, capacity, Function.comp_def]

/-- a second reset finds nothing to do -/
theorem reset_reset (s : Scheduler) : s.reset.2.reset = (0, s.reset.2) := by
  have hcount : s.reset.2.inFlightCount = 0 := by
    rw [inFlightCount_eq, running_reset]
    rfl
  have hload : SameLoad s.reset.2 s.reset.2.reset.2 := by
    refine ⟨?_, rfl, ?_⟩
    · change Bits.mask s.reset.2.capacity = Bits.mask s.capacity
      rw [capacity_reset]
    · simp [reset, Function.comp_def]
  refine Prod.ext ?_ (eq_of_bindings_of_sameLoad (bindings_reset s.reset.2).symm hload).symm
  change s.reset.2.inFlightCount + 0 = 0
  rw [hcount]

end Scheduler

/-! ## Binding a new unit -/

namespace DmaUnit

/-- the call binds channels to interrupts -/
def Call.isBinding : Call → Bool
  | enable .. => true
  | bind _ => true
  | _ => false

variable {ε : Type} [TransferEngine ε]

theorem call_of_isBinding {c : Call} (h : c.isBinding) (u : DmaUnit ε) :
    Scheduler.SameLoad u.scheduler (call c u).2.1.scheduler ∧ (call c u).2.1.engine = u.engine := by
  cases c with
  | enable channel irq => exact ⟨u.toTransferLedger.sameLoad_enable channel irq, rfl⟩
  | bind base => exact ⟨u.toTransferLedger.sameLoad_bindInterrupts base, rfl⟩
  | _ => cases h

/-- bindings move no request and do not concern the engine -/
theorem after_of_isBinding {binds : List Call} (h : ∀ b ∈ binds, b.isBinding) (u : DmaUnit ε) :
    Scheduler.SameLoad u.scheduler (u.after binds).scheduler ∧ (u.after binds).engine = u.engine := by
  induction binds generalizing u with
  | nil => exact ⟨.refl _, rfl⟩
  | cons b binds ih =>
    obtain ⟨hload, hengine⟩ := call_of_isBinding (h b List.mem_cons_self) u
    obtain ⟨hload', hengine'⟩ := ih (fun c hc => h c (List.mem_cons_of_mem b hc)) (call b u).2.1
    exact ⟨hload.trans hload', hengine'.trans hengine⟩

end DmaUnit

/-! ## The bindings of a run -/

namespace Client

/-- the call that binds like the operation, if it binds -/
def Op.binding? : Op → Option DmaUnit.Call
  | enable channel irq => some (.enable channel irq)
  | bind base => some (.bind base)
  | _ => none

theorem isBinding_of_binding? {op : Op} {b : DmaUnit.Call} (h : op.binding? = some b) : b.isBinding := by
  cases op <;> cases h <;> rfl

variable {ε ε' : Type} [TransferEngine ε] [TransferEngine ε']

/-- an operation that binds nothing leaves the bindings -/
theorem bindings_step (c : Client ε) {op : Op} (h : op.binding? = none) :
    (c.step op).scheduler.bindings = c.scheduler.bindings := by
  cases op with
  | create descriptor cookie watched =>
    exact congrArg Scheduler.bindings (c.toTransferLedger.scheduler_newRequest descriptor cookie watched)
  | submit r =>
    simp only [step]
    split
    · obtain ⟨_, -, ds, hretires, -⟩ := DmaUnit.submit_settles r c.toDmaUnit
      exact hretires.bindings.trans (Scheduler.bindings_submit c.scheduler r)
    · rfl
  | complete irq =>
    obtain ⟨ds, hretires, -⟩ := DmaUnit.complete_settles _ irq c.toDmaUnit (Nat.le_refl _)
    exact hretires.bindings
  | reset => exact Scheduler.bindings_reset c.scheduler
  | enable channel irq => cases h
  | bind base => cases h

/-- an operation that binds does to one unit what its call does to another that is bound alike -/
theorem bindings_call (c : Client ε) (u : DmaUnit ε') (h : u.scheduler.bindings = c.scheduler.bindings) {op : Op}
    {b : DmaUnit.Call} (hb : op.binding? = some b) :
    (DmaUnit.call b u).2.1.scheduler.bindings = (c.step op).scheduler.bindings := by
  cases op <;> cases hb
  case enable channel irq =>
    have halike := Scheduler.bindsAlike_bindings.enable h channel irq
    simp only [DmaUnit.call, DmaUnit.step, step, TransferLedger.enable]
    rcases halike.cases_of with ⟨e, hc, hu⟩ | ⟨s, t, hc, hu, h'⟩
    · rw [hc, hu]
      exact h
    · rw [hc, hu]
      exact h'
  case bind base => exact (Scheduler.bindsAlike_bindings.bindInterrupts h base).2

/-- the bindings of a run are those of its binding operations alone -/
theorem bindings_run (c : Client ε) (u : DmaUnit ε') (h : u.scheduler.bindings = c.scheduler.bindings)
    (ops : List Op) :
    (u.after (ops.filterMap Op.binding?)).scheduler.bindings = (c.run ops).scheduler.bindings := by
  induction ops generalizing c u with
  | nil => exact h
  | cons op ops ih =>
    cases hb : op.binding? with
    | none =>
      rw [List.filterMap_cons_none hb]
      exact ih (c.step op) u (h.trans (c.bindings_step hb).symm)
    | some b =>
      rw [List.filterMap_cons_some hb]
      exact ih (c.step op) (DmaUnit.call b u).2.1 (c.bindings_call u h hb)

/-- **A reset makes a unit as good as new.** After every run of a client of a new unit, also one with channels busy at
the start, whatever its engine does, and a reset:
- a new unit of the same size with every channel idle can be bound to the same interrupts;
- any that is bound to them holds the same books; and if its engine behaves like the engine of the first one, then the
  same calls on corresponding requests show the same on both, call after call;
- a second reset drops nothing and changes nothing. -/
theorem reset_like_new (channels : Nat) (idle : BitVec 32) (engine : ε) (tickets : TicketCounter)
    (completions : CompletionTable) (ops : List Op) (engine' : ε') (tickets' : TicketCounter)
    (completions' : CompletionTable) :
    let used := ((fresh channels idle engine tickets completions).run ops).toDmaUnit
    let cleared := (used.call .reset).2.1
    let blank := (fresh used.scheduler.capacity (.allOnes 32) engine' tickets' completions').toDmaUnit
    (∃ binds : List DmaUnit.Call, (∀ b ∈ binds, b.isBinding) ∧
      (blank.after binds).scheduler.bindings = used.scheduler.bindings) ∧
    (∀ binds : List DmaUnit.Call, (∀ b ∈ binds, b.isBinding) →
      (blank.after binds).scheduler.bindings = used.scheduler.bindings →
      (blank.after binds).scheduler = cleared.scheduler ∧
      ∀ E : ε → ε' → Prop, SameEngine E → E used.engine engine' →
        ∀ (ρ : Ticket → Ticket → Prop) (calls calls' : List DmaUnit.Call),
          List.Forall₂ (DmaUnit.Call.Matches ρ) calls calls' →
          List.Forall₂ (DmaUnit.Moment.Matches ρ) (cleared.moments calls) ((blank.after binds).moments calls')) ∧
    cleared.call .reset = (.ok (.dropped 0), cleared, {}) := by
  intro used cleared blank
  have hinStep := inStep_run channels idle engine tickets completions ops
  have hcapacity : used.scheduler.capacity ≤ 32 := hinStep.sound.capacity_le
  refine ⟨⟨ops.filterMap Op.binding?, fun b hb => ?_, ?_⟩, fun binds hbinds hsame => ?_, ?_⟩
  · obtain ⟨op, -, hop⟩ := List.mem_filterMap.1 hb
    exact isBinding_of_binding? hop
  · refine bindings_run (fresh channels idle engine tickets completions) blank ?_ ops
    -- two new schedulers of one size are bound to nothing
    have hsize : used.scheduler.capacity = min channels maxDmaChannels := by
      rw [show used.scheduler.capacity = _ from hinStep.capacity]
      simp [Scheduler.fresh, Scheduler.capacity]
    simp [blank, fresh, Scheduler.fresh, Scheduler.bindings, hsize]
  · obtain ⟨hload, hengine⟩ := DmaUnit.after_of_isBinding hbinds blank
    have hbooks : (blank.after binds).scheduler = cleared.scheduler := by
      refine Scheduler.eq_of_bindings_of_sameLoad (hsame.trans (Scheduler.bindings_reset used.scheduler).symm) ?_
      exact hload.symm.trans (Scheduler.sameLoad_fresh_reset hcapacity)
    refine ⟨hbooks, fun E same hE ρ calls calls' hcalls => DmaUnit.moments_matches same hcalls ⟨?_, ?_⟩⟩
    · rw [hbooks]
      exact Scheduler.matches_self ρ (Scheduler.running?_reset used.scheduler) rfl
    · rw [hengine]
      exact hE
  · have htwice := Scheduler.reset_reset used.scheduler
    have hreset : cleared.scheduler.reset = (0, cleared.scheduler) := htwice
    simp only [DmaUnit.call, DmaUnit.step, TransferLedger.reset, hreset]

end Client

/-! ## A unit with a channel busy at the start -/

theorem sameEngine_promptEngine : SameEngine fun e e' : PromptEngine => e = e' where
  result h _ := by rw [h]; rfl
  events h _ := by rw [h]; rfl
  state h _ := h
  raises h hab := by
    simp only [TransferEngine.raises]
    rw [h, hab.channel]

namespace Client

/-- three requests for three channels of which one is busy; they are bound to their interrupts after the starts -/
def busyAtStart : List Op :=
  [.create (watchedRequest 0).descriptor ⟨7⟩ true, .create (watchedRequest 1).descriptor ⟨7⟩ true,
   .create (watchedRequest 2).descriptor ⟨7⟩ true, .submit (watchedRequest 0), .submit (watchedRequest 1),
   .submit (watchedRequest 2), .bind 32]

/-- four requests, the first with ticket `i + 1`, while channel 0 is bound to an interrupt that the engine does not
raise; then that interrupt, and channel 0 is bound again -/
def fourCalls (i : Nat) : List DmaUnit.Call :=
  [.enable 0 7, .submit (watchedRequest i), .submit (watchedRequest (i + 1)), .complete 7, .bind 32,
   .submit (watchedRequest (i + 2)), .complete 34, .submit (watchedRequest (i + 3)), .reset]

/-- the reset drops two requests on channels and one that waits; afterwards four calls show the same as on a new unit
with three idle channels, though the tickets are others -/
theorem reset_like_new_busyAtStart :
    let used := ((fresh 3 5#32 (PromptEngine.mk 32) {} {}).run busyAtStart).toDmaUnit
    let new := (fresh 3 (.allOnes 32) (PromptEngine.mk 32) {} {}).toDmaUnit.after [.bind 32]
    (used.call .reset).1 = .ok (.dropped 3) ∧
    List.Forall₂ (DmaUnit.Moment.Matches fun t t' => t.value = t'.value + 3)
      ((used.call .reset).2.1.moments (fourCalls 3)) (new.moments (fourCalls 0)) := by
  intro used new
  have hcalls : List.Forall₂ (DmaUnit.Call.Matches fun t t' => t.value = t'.value + 3) (fourCalls 3) (fourCalls 0) := by
    have hrequest : ∀ i : Nat, i < 4 →
        (watchedRequest (3 + i)).Matches (fun t t' => t.value = t'.value + 3) (watchedRequest i) := by
      intro i hi
      exact ⟨rfl, rfl, by revert i; decide⟩
    exact .cons (.enable 0 7) (.cons (.submit (hrequest 0 (by omega))) (.cons (.submit (hrequest 1 (by omega)))
      (.cons (.complete 7) (.cons (.bind 32) (.cons (.submit (hrequest 2 (by omega))) (.cons (.complete 34)
        (.cons (.submit (hrequest 3 (by omega))) (.cons .reset .nil))))))))
  obtain ⟨-, hnew, -⟩ := reset_like_new 3 5#32 (PromptEngine.mk 32) {} {} busyAtStart (PromptEngine.mk 32) {} {}
  obtain ⟨-, hsame⟩ := hnew [.bind 32] (by decide) (by decide)
  exact ⟨by decide, hsame _ sameEngine_promptEngine rfl _ _ _ hcalls⟩

end Client
end BoardDriver
