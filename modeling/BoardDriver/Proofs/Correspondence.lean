/-
Units that cannot be told apart.

Two units are in step when their schedulers hold corresponding requests in the same places and their engines behave
alike. Requests correspond when they ask for the same transfer for the same owner; their tickets correspond as `ρ` says,
and `ρ` may be any relation, since no operation ever looks at a ticket.

- `Scheduler.BindsAlike`: what is bound hangs on what was bound before, and on nothing else;
- `Scheduler.Matches.submit`, `Scheduler.Matches.complete`, `Scheduler.Matches.reset`: schedulers keep step, and answer
  alike;
- `answerAll_matches`, `kickOff_matches`: so does whatever answers an engine's interrupts, however deep they are nested;
- `DmaUnit.call_matches`: so does a unit, whatever it is called for;
- `DmaUnit.moments_matches`: and through every sequence of calls.
-/
import Mathlib.Data.List.Forall2
import BoardDriver.Proofs.Binding

namespace BoardDriver

variable {α β : Type}

/-- both fail in the same way, or both answer and the answers correspond -/
inductive Alike (R : α → β → Prop) : Except Error α → Except Error β → Prop
  | ok {a : α} {b : β} : R a b → Alike R (.ok a) (.ok b)
  | error (e : Error) : Alike R (.error e) (.error e)

namespace Alike

variable {R : α → β → Prop} {x : Except Error α} {y : Except Error β}

theorem cases_of (h : Alike R x y) :
    (∃ e, x = .error e ∧ y = .error e) ∨ ∃ a b, x = .ok a ∧ y = .ok b ∧ R a b := by
  cases h with
  | ok h => exact .inr ⟨_, _, rfl, rfl, h⟩
  | error e => exact .inl ⟨e, rfl, rfl⟩

theorem map {γ δ : Type} {S : γ → δ → Prop} {f : α → γ} {g : β → δ} (h : Alike R x y)
    (hfg : ∀ a b, R a b → S (f a) (g b)) : Alike S (x.map f) (y.map g) := by
  cases h with
  | ok h => exact .ok (hfg _ _ h)
  | error e => exact .error e

end Alike

/-! ## Requests -/

section

variable (ρ : Ticket → Ticket → Prop)

structure Request.Matches (r q : Request) : Prop where
  descriptor : q.descriptor = r.descriptor
  cookie : q.cookie = r.cookie
  ticket : ρ r.ticket q.ticket

structure Retired.Matches (x y : Retired) : Prop where
  channel : y.channel = x.channel
  descriptor : y.descriptor = x.descriptor
  cookie : y.cookie = x.cookie
  ticket : ρ x.ticket y.ticket

/-- starts that an engine cannot tell apart -/
structure Start.Matches (a b : Start) : Prop where
  channel : b.channel = a.channel
  descriptor : b.descriptor = a.descriptor

structure Completed.Matches (a b : Completed) : Prop where
  channel : b.channel = a.channel
  request : a.request.Matches ρ b.request
  next : Option.Rel Start.Matches a.next b.next

end

variable {ρ : Ticket → Ticket → Prop}

theorem Request.Matches.startOn {r q : Request} (h : r.Matches ρ q) (c : Nat) :
    (r.startOn c).Matches (q.startOn c) :=
  ⟨rfl, h.descriptor⟩

theorem Request.Matches.retiredOn {r q : Request} (h : r.Matches ρ q) (c : Nat) :
    (r.retiredOn c).Matches ρ (q.retiredOn c) :=
  ⟨rfl, h.descriptor, h.cookie, h.ticket⟩

theorem isSome_eq_of_rel {R : α → β → Prop} {a : Option α} {b : Option β} (h : Option.Rel R a b) :
    b.isSome = a.isSome := by
  cases h <;> rfl

/-! ## Schedulers -/

namespace Scheduler

variable {s t : Scheduler}

/-! ### Bindings -/

theorem bindings_modifyChannel_irq (s : Scheduler) (c : Nat) (irq : UInt32) :
    (s.modifyChannel c fun ch => { ch with irq := some irq }).bindings = s.bindings.modify c fun _ => some irq := by
  refine List.ext_getElem? fun i => ?_
  simp only [Scheduler.bindings, modifyChannel, List.getElem?_map, List.getElem?_modify]
  cases s.channels[i]? with
  | none => rfl
  | some ch =>
    simp only [Option.map_some]
    split <;> rfl

theorem running?_modifyChannel_irq (s : Scheduler) (c i : Nat) (irq : UInt32) :
    (s.modifyChannel c fun ch => { ch with irq := some irq }).running? i = s.running? i := by
  simp only [running?, modifyChannel, List.getElem?_modify]
  cases s.channels[i]? with
  | none => rfl
  | some ch =>
    simp only [Option.bind_some]
    split <;> rfl

/-- schedulers in the relation have the same bindings, and a new binding of both keeps them in it -/
structure BindsAlike (R : Scheduler → Scheduler → Prop) : Prop where
  bindings : ∀ {s t}, R s t → t.bindings = s.bindings
  bind : ∀ {s t} c irq, R s t →
    R (s.modifyChannel c fun ch => { ch with irq := some irq })
      (t.modifyChannel c fun ch => { ch with irq := some irq })

theorem bindsAlike_bindings : BindsAlike fun s t => t.bindings = s.bindings where
  bindings h := h
  bind c irq h := by rw [bindings_modifyChannel_irq, bindings_modifyChannel_irq, h]

theorem capacity_eq_of_bindings (h : t.bindings = s.bindings) : t.capacity = s.capacity := by
  rw [← length_bindings, h, length_bindings]

theorem channelOf?_eq_of_bindings (h : t.bindings = s.bindings) (irq : UInt32) :
    t.channelOf? irq = s.channelOf? irq := by
  rw [channelOf?_eq, h, ← channelOf?_eq]

namespace BindsAlike

variable {R : Scheduler → Scheduler → Prop} (b : BindsAlike R)
include b

theorem enable (h : R s t) (c : Nat) (irq : UInt32) : Alike R (s.enable c irq) (t.enable c irq) := by
  have hb := b.bindings h
  unfold Scheduler.enable
  rw [channelOf?_eq_of_bindings hb, capacity_eq_of_bindings hb]
  split
  · exact .error _
  · split
    · exact .ok (b.bind c irq h)
    · exact .error _

theorem bindFrom (h : R s t) (base : UInt32) (c count : Nat) :
    (Scheduler.bindFrom base c count t).1 = (Scheduler.bindFrom base c count s).1 ∧
      R (Scheduler.bindFrom base c count s).2 (Scheduler.bindFrom base c count t).2 := by
  induction count generalizing c s t with
  | zero => exact ⟨rfl, h⟩
  | succ count ih =>
    unfold Scheduler.bindFrom
    split
    · rcases (b.enable h c (base + UInt32.ofNat c)).cases_of with ⟨e, hs, ht⟩ | ⟨s', t', hs, ht, h'⟩
      · rw [hs, ht]
        exact ⟨rfl, h⟩
      · rw [hs, ht]
        exact ih h' (c + 1)
    · exact ⟨rfl, h⟩

theorem bindInterrupts (h : R s t) (base : UInt32) :
    (t.bindInterrupts base).1 = (s.bindInterrupts base).1 ∧ R (s.bindInterrupts base).2 (t.bindInterrupts base).2 := by
  unfold Scheduler.bindInterrupts
  rw [capacity_eq_of_bindings (b.bindings h)]
  exact b.bindFrom h base 0 s.capacity

end BindsAlike

/-! ### Requests in the same places -/

/-- the same bindings and idle map, with corresponding requests in the same places -/
structure Matches (ρ : Ticket → Ticket → Prop) (s t : Scheduler) : Prop where
  bindings : t.bindings = s.bindings
  slots : ∀ c, Option.Rel (Request.Matches ρ) (s.running? c) (t.running? c)
  idle : t.idle = s.idle
  pending : List.Forall₂ (Request.Matches ρ) s.pending t.pending

/-- a scheduler that holds no request corresponds to itself -/
theorem matches_self (ρ : Ticket → Ticket → Prop) (hslots : ∀ c, s.running? c = none) (hpend : s.pending = []) :
    s.Matches ρ s where
  bindings := rfl
  slots c := by rw [hslots c]; exact .none
  idle := rfl
  pending := by rw [hpend]; exact .nil

theorem bindsAlike_matches (ρ : Ticket → Ticket → Prop) : BindsAlike (Matches ρ) where
  bindings m := m.bindings
  bind c irq m := by
    refine ⟨bindsAlike_bindings.bind c irq m.bindings, fun i => ?_, m.idle, m.pending⟩
    rw [running?_modifyChannel_irq, running?_modifyChannel_irq]
    exact m.slots i

namespace Matches

variable (m : s.Matches ρ t)
include m

theorem capacity : t.capacity = s.capacity := capacity_eq_of_bindings m.bindings

theorem inFlightCount : t.inFlightCount = s.inFlightCount := by
  rw [inFlightCount_eq, inFlightCount_eq, length_running, length_running, m.capacity]
  refine List.countP_congr fun c _ => ?_
  rw [isSome_eq_of_rel (m.slots c)]

theorem status : t.status = s.status := by
  simp only [Scheduler.status, m.capacity, m.idle, m.inFlightCount, m.pending.length_eq]

/-- corresponding requests are put on the same channel, or taken off it -/
theorem assign (idle : BitVec 32) {waiting waiting' : List Request} (c : Nat) {r? q? : Option Request}
    (hpend : List.Forall₂ (Request.Matches ρ) waiting waiting') (h : Option.Rel (Request.Matches ρ) r? q?) :
    (({ s with idle := idle, pending := waiting } : Scheduler).assign c r?).Matches ρ
      (({ t with idle := idle, pending := waiting' } : Scheduler).assign c q?) where
  bindings := by
    rw [bindings_assign, bindings_assign]
    exact m.bindings
  slots i := by
    rw [running?_assign, running?_assign]
    change Option.Rel _ (if i = c ∧ i < s.capacity then r? else s.running? i)
      (if i = c ∧ i < t.capacity then q? else t.running? i)
    rw [m.capacity]
    split
    · exact h
    · exact m.slots i
  idle := rfl
  pending := hpend

theorem submit {r q : Request} (h : r.Matches ρ q) :
    Option.Rel Start.Matches (s.submit r).1 (t.submit q).1 ∧ (s.submit r).2.Matches ρ (t.submit q).2 := by
  cases hl : Bits.lowest? s.idle with
  | none =>
    have hl' : Bits.lowest? t.idle = none := m.idle ▸ hl
    rw [submit_of_busy hl, submit_of_busy hl']
    exact ⟨.none, m.bindings, m.slots, m.idle, List.rel_append m.pending (.cons h .nil)⟩
  | some c =>
    have hl' : Bits.lowest? t.idle = some c := m.idle ▸ hl
    rw [submit_of_idle hl, submit_of_idle hl', m.idle]
    exact ⟨.some (h.startOn c), m.assign (Bits.erase s.idle c) c m.pending (.some h)⟩

theorem complete (irq : UInt32) :
    Alike (fun x y => x.1.Matches ρ y.1 ∧ x.2.Matches ρ y.2) (s.complete irq) (t.complete irq) := by
  unfold Scheduler.complete
  rw [channelOf?_eq_of_bindings m.bindings]
  cases s.channelOf? irq with
  | none => exact .error _
  | some c =>
    dsimp only
    rcases hr : s.running? c with _ | r <;> rcases hq : t.running? c with _ | q <;>
      have hslot := m.slots c <;> rw [hr, hq] at hslot <;> cases hslot
    case none => exact .error _
    case some hrq =>
      rcases hp : s.pending with _ | ⟨next, rest⟩ <;> rcases hp' : t.pending with _ | ⟨next', rest'⟩ <;>
        have hpend := m.pending <;> rw [hp, hp'] at hpend <;> cases hpend
      case nil =>
        dsimp only
        rw [m.idle]
        exact .ok ⟨⟨rfl, hrq, .none⟩, m.assign (Bits.insert s.idle c) c .nil .none⟩
      case cons hn hrest =>
        dsimp only
        rw [m.idle]
        exact .ok ⟨⟨rfl, hrq, .some (hn.startOn c)⟩, m.assign s.idle c hrest (.some hn)⟩

theorem reset : t.reset.1 = s.reset.1 ∧ s.reset.2.Matches ρ t.reset.2 := by
  constructor
  · change t.inFlightCount + t.pending.length = s.inFlightCount + s.pending.length
    rw [m.inFlightCount, m.pending.length_eq]
  · refine ⟨?_, fun c => ?_, ?_, .nil⟩
    · rw [bindings_reset, bindings_reset, m.bindings]
    · rw [running?_reset, running?_reset]
      exact .none
    · change Bits.mask t.capacity = Bits.mask s.capacity
      rw [m.capacity]

end Matches
end Scheduler

/-- corresponding books answer an interrupt alike -/
theorem TransferLedger.retire_matches {l m : TransferLedger} (h : l.scheduler.Matches ρ m.scheduler) (irq : UInt32) :
    Alike (fun x y => x.1.Matches ρ y.1 ∧ x.2.scheduler.Matches ρ y.2.scheduler) (l.retire irq) (m.retire irq) := by
  unfold retire
  rcases (h.complete irq).cases_of with ⟨e, hl, hm⟩ | ⟨x, y, hl, hm, h'⟩
  · rw [hl, hm]
    exact .error e
  · rw [hl, hm]
    exact .ok h'

/-! ## Engines -/

/-- what an engine is told and answered, up to what `A` allows in the answers -/
inductive EngineStep.Matches (A : α → β → Prop) : EngineStep α → EngineStep β → Prop
  | started {a b : Start} (result : Except Error Unit) : a.Matches b →
      EngineStep.Matches A (.started a result) (.started b result)
  | raised (irq : UInt32) {x : α} {y : β} : A x y → EngineStep.Matches A (.raised irq x) (.raised irq y)

/-- the same steps, up to `A`, and the same register events -/
structure EngineActivity.Matches (A : α → β → Prop) (x : EngineActivity α) (y : EngineActivity β) : Prop where
  steps : List.Forall₂ (EngineStep.Matches A) x.steps y.steps
  events : y.events = x.events

/-- what is left of a start: the same result, events and interrupts -/
structure Launched.Matches {σ τ : Type} (M : σ → τ → Prop) (x : Launched σ) (y : Launched τ) : Prop where
  result : y.result = x.result
  state : M x.state y.state
  events : y.events = x.events
  raised : y.raised = x.raised

namespace EngineActivity

variable {A : α → β → Prop}

theorem matches_empty (A : α → β → Prop) : ({} : EngineActivity α).Matches A {} := ⟨.nil, rfl⟩

theorem Matches.append {x x' : EngineActivity α} {y y' : EngineActivity β} (h : x.Matches A y) (h' : x'.Matches A y') :
    (x ++ x').Matches A (y ++ y') :=
  ⟨List.rel_append h.steps h'.steps, congrArg₂ (· ++ ·) h.events h'.events⟩

end EngineActivity

/-- engines in the relation `E` behave alike: told to start the same transfer on the same channel, they answer alike,
report the same register events, raise the same interrupts, and stay in the relation -/
structure SameEngine {ε ε' : Type} [TransferEngine ε] [TransferEngine ε'] (E : ε → ε' → Prop) : Prop where
  result : ∀ {e e' a b}, E e e' → a.Matches b →
    (TransferEngine.start b e').result = (TransferEngine.start a e).result
  events : ∀ {e e' a b}, E e e' → a.Matches b →
    (TransferEngine.start b e').events = (TransferEngine.start a e).events
  state : ∀ {e e' a b}, E e e' → a.Matches b → E (TransferEngine.start a e).state (TransferEngine.start b e').state
  raises : ∀ {e e' a b}, E e e' → a.Matches b → TransferEngine.raises e' b = TransferEngine.raises e a

section

variable {σ τ : Type} (M : σ → τ → Prop) (A : α → β → Prop)

/-- corresponding states answer an interrupt alike -/
def AnswersMatch (f : UInt32 → σ → α × σ × EngineActivity α) (g : UInt32 → τ → β × τ × EngineActivity β) : Prop :=
  ∀ irq s t, M s t →
    A (f irq s).1 (g irq t).1 ∧ M (f irq s).2.1 (g irq t).2.1 ∧ (f irq s).2.2.Matches A (g irq t).2.2

/-- what follows a start in corresponding states corresponds -/
def KicksMatch (f : Start → σ → σ × EngineActivity α) (g : Start → τ → τ × EngineActivity β) : Prop :=
  ∀ a b s t, a.Matches b → M s t → M (f a s).1 (g b t).1 ∧ (f a s).2.Matches A (g b t).2

variable {M A} {f : UInt32 → σ → α × σ × EngineActivity α} {g : UInt32 → τ → β × τ × EngineActivity β}

theorem answerAll_matches (h : AnswersMatch M A f g) (irqs : List UInt32) {s : σ} {t : τ} (m : M s t) :
    M (answerAll f irqs s).1 (answerAll g irqs t).1 ∧ (answerAll f irqs s).2.Matches A (answerAll g irqs t).2 := by
  induction irqs generalizing s t with
  | nil => exact ⟨m, EngineActivity.matches_empty A⟩
  | cons irq irqs ih =>
    obtain ⟨hanswer, hstate, hinner⟩ := h irq s t m
    obtain ⟨hlast, hmore⟩ := ih hstate
    have hraised : EngineActivity.Matches A { steps := [.raised irq (f irq s).1] }
        { steps := [.raised irq (g irq t).1] } := ⟨.cons (.raised irq hanswer) .nil, rfl⟩
    exact ⟨hlast, (hinner.append hraised).append hmore⟩

theorem kickOff_matches {launch : Start → σ → Launched σ} {launch' : Start → τ → Launched τ}
    (hl : ∀ a b s t, a.Matches b → M s t → (launch a s).Matches M (launch' b t)) (h : AnswersMatch M A f g) :
    KicksMatch M A (kickOff launch f) (kickOff launch' g) := by
  intro a b s t hab m
  obtain ⟨hresult, hstate, hevents, hraised⟩ := hl a b s t hab m
  obtain ⟨hlast, hinner⟩ := answerAll_matches h (launch a s).raised hstate
  unfold kickOff
  simp only [hraised, hresult, hevents]
  have hstarted : EngineActivity.Matches A
      { steps := [.started a (launch a s).result], events := (launch a s).events }
      { steps := [.started b (launch a s).result], events := (launch a s).events } :=
    ⟨.cons (.started _ hab) .nil, rfl⟩
  exact ⟨hlast, hstarted.append hinner⟩

theorem kickOff?_matches {kick : Start → σ → σ × EngineActivity α} {kick' : Start → τ → τ × EngineActivity β}
    {a? b? : Option Start} {s : σ} {t : τ} (hk : KicksMatch M A kick kick') (hab : Option.Rel Start.Matches a? b?)
    (m : M s t) :
    M (kickOff? kick a? s).1 (kickOff? kick' b? t).1 ∧
      (kickOff? kick a? s).2.Matches A (kickOff? kick' b? t).2 := by
  cases hab with
  | none => exact ⟨m, EngineActivity.matches_empty A⟩
  | some hab => exact hk _ _ s t hab m

end

/-! ## Units -/

namespace DmaUnit

variable {ε ε' : Type} {E : ε → ε' → Prop}

/-- corresponding schedulers, and engines in the relation -/
structure Matches (ρ : Ticket → Ticket → Prop) (E : ε → ε' → Prop) (u : DmaUnit ε) (v : DmaUnit ε') : Prop where
  books : u.scheduler.Matches ρ v.scheduler
  engine : E u.engine v.engine

theorem completeWith_matches {kick : Start → DmaUnit ε → DmaUnit ε × EngineActivity (Except Error Retired)}
    {kick' : Start → DmaUnit ε' → DmaUnit ε' × EngineActivity (Except Error Retired)}
    (hk : KicksMatch (Matches ρ E) (Alike (Retired.Matches ρ)) kick kick') :
    AnswersMatch (Matches ρ E) (Alike (Retired.Matches ρ)) (completeWith kick) (completeWith kick') := by
  intro irq u v m
  unfold completeWith
  rcases (TransferLedger.retire_matches m.books irq).cases_of with ⟨e, hu, hv⟩ | ⟨x, y, hu, hv, hdone, hbooks⟩
  · rw [hu, hv]
    exact ⟨.error e, m, EngineActivity.matches_empty _⟩
  · rw [hu, hv]
    have next : Matches ρ E { u with toTransferLedger := x.2 } { v with toTransferLedger := y.2 } :=
      ⟨hbooks, m.engine⟩
    obtain ⟨hstate, hactivity⟩ := kickOff?_matches hk hdone.next next
    refine ⟨.ok ?_, hstate, hactivity⟩
    rw [hdone.channel]
    exact hdone.request.retiredOn _

variable [TransferEngine ε] [TransferEngine ε']

theorem launch_matches (same : SameEngine E) (a b : Start) (u : DmaUnit ε) (v : DmaUnit ε') (hab : a.Matches b)
    (m : Matches ρ E u v) : (launch a u).Matches (Matches ρ E) (launch b v) :=
  ⟨same.result m.engine hab, ⟨m.books, same.state m.engine hab⟩, same.events m.engine hab,
    same.raises (same.state m.engine hab) hab⟩

theorem completeWithin_matches (same : SameEngine E) (depth : Nat) :
    AnswersMatch (Matches ρ E) (Alike (Retired.Matches ρ)) (completeWithin (ε := ε) depth)
      (completeWithin (ε := ε') depth) := by
  induction depth with
  | zero => exact completeWith_matches fun _ _ _ _ _ m => ⟨m, EngineActivity.matches_empty _⟩
  | succ depth ih => exact completeWith_matches (kickOff_matches (launch_matches same) ih)

theorem complete_matches (same : SameEngine E) :
    AnswersMatch (Matches ρ E) (Alike (Retired.Matches ρ)) (complete (ε := ε)) (complete (ε := ε')) := by
  intro irq u v m
  unfold complete
  rw [← m.books.pending.length_eq]
  exact completeWithin_matches same _ irq u v m

theorem submit_matches (same : SameEngine E) {r q : Request} (h : r.Matches ρ q) {u : DmaUnit ε} {v : DmaUnit ε'}
    (m : Matches ρ E u v) :
    Matches ρ E (u.submit r).1 (v.submit q).1 ∧
      (u.submit r).2.Matches (Alike (Retired.Matches ρ)) (v.submit q).2 := by
  obtain ⟨hstart, hbooks⟩ := m.books.submit h
  have next : Matches ρ E { u with toTransferLedger := (u.toTransferLedger.submit r).2 }
      { v with toTransferLedger := (v.toTransferLedger.submit q).2 } := ⟨hbooks, m.engine⟩
  exact kickOff?_matches (kickOff_matches (launch_matches same) (complete_matches same)) hstart next

/-! ## Calls -/

/-- what a unit is called for; a request has been made beforehand -/
inductive Call where
  | submit (r : Request)
  | complete (irq : UInt32)
  | enable (channel : Nat) (irq : UInt32)
  | bind (base : UInt32)
  | reset
  deriving DecidableEq

inductive Call.Matches (ρ : Ticket → Ticket → Prop) : Call → Call → Prop
  | submit {r q : Request} : r.Matches ρ q → Call.Matches ρ (.submit r) (.submit q)
  | complete (irq : UInt32) : Call.Matches ρ (.complete irq) (.complete irq)
  | enable (channel : Nat) (irq : UInt32) : Call.Matches ρ (.enable channel irq) (.enable channel irq)
  | bind (base : UInt32) : Call.Matches ρ (.bind base) (.bind base)
  | reset : Call.Matches ρ .reset .reset

/-- the same answer, for corresponding requests -/
inductive Answer.Matches (ρ : Ticket → Ticket → Prop) : Answer → Answer → Prop
  | submitted {t t' : Ticket} : ρ t t' → Answer.Matches ρ (.submitted t none) (.submitted t' none)
  | retired {x y : Retired} : x.Matches ρ y → Answer.Matches ρ (.retired x) (.retired y)
  | bound : Answer.Matches ρ .bound .bound
  | dropped (count : Nat) : Answer.Matches ρ (.dropped count) (.dropped count)

/-- answers a call; a submission answers with the ticket of its request -/
def call : Call → DmaUnit ε → Result ε (Except Error Answer)
  | .submit r, u => (.ok (.submitted r.ticket none), u.submit r)
  | .complete irq, u => u.step (.complete irq)
  | .enable channel irq, u => u.step (.enable channel irq)
  | .bind base, u => u.step (.bind base)
  | .reset, u => u.step .reset

def after (u : DmaUnit ε) (calls : List Call) : DmaUnit ε :=
  calls.foldl (fun u c => (call c u).2.1) u

/-- what is seen of one call: the answer, what the engine did for it, and the unit after it -/
structure Moment (ε : Type) where
  answer : Except Error Answer
  activity : EngineActivity (Except Error Retired)
  unit : DmaUnit ε

def moments : List Call → DmaUnit ε → List (Moment ε)
  | [], _ => []
  | c :: cs, u => ⟨(call c u).1, (call c u).2.2, (call c u).2.1⟩ :: moments cs (call c u).2.1

/-- nothing seen tells the calls apart but the tickets, and these correspond: the same answer or error, the same starts
with the same results, the same interrupts with the same answers, the same register events; and afterwards the same
bindings, idle map and status, with corresponding requests on the channels and in the queue -/
structure Moment.Matches (ρ : Ticket → Ticket → Prop) (x : Moment ε) (y : Moment ε') : Prop where
  answer : Alike (Answer.Matches ρ) x.answer y.answer
  activity : x.activity.Matches (Alike (Retired.Matches ρ)) y.activity
  books : x.unit.scheduler.Matches ρ y.unit.scheduler
  status : y.unit.scheduler.status = x.unit.scheduler.status

theorem call_matches (same : SameEngine E) {c c' : Call} (h : c.Matches ρ c') {u : DmaUnit ε} {v : DmaUnit ε'}
    (m : Matches ρ E u v) :
    Alike (Answer.Matches ρ) (call c u).1 (call c' v).1 ∧ Matches ρ E (call c u).2.1 (call c' v).2.1 ∧
      (call c u).2.2.Matches (Alike (Retired.Matches ρ)) (call c' v).2.2 := by
  cases h with
  | submit h =>
    obtain ⟨hunit, hactivity⟩ := submit_matches same h m
    exact ⟨.ok (.submitted h.ticket), hunit, hactivity⟩
  | complete irq =>
    obtain ⟨hanswer, hunit, hactivity⟩ := complete_matches same irq u v m
    exact ⟨hanswer.map fun _ _ => .retired, hunit, hactivity⟩
  | enable channel irq =>
    have halike := (Scheduler.bindsAlike_matches ρ).enable m.books channel irq
    simp only [call, step, TransferLedger.enable]
    rcases halike.cases_of with ⟨e, hu, hv⟩ | ⟨s, t, hu, hv, hbooks⟩
    · rw [hu, hv]
      exact ⟨.error e, m, EngineActivity.matches_empty _⟩
    · rw [hu, hv]
      exact ⟨.ok .bound, ⟨hbooks, m.engine⟩, EngineActivity.matches_empty _⟩
  | bind base =>
    obtain ⟨hanswer, hbooks⟩ := (Scheduler.bindsAlike_matches ρ).bindInterrupts m.books base
    simp only [call, step, TransferLedger.bindInterrupts, hanswer]
    refine ⟨?_, ⟨hbooks, m.engine⟩, EngineActivity.matches_empty _⟩
    cases (u.scheduler.bindInterrupts base).1 with
    | ok _ => exact .ok .bound
    | error e => exact .error e
  | reset =>
    obtain ⟨hcount, hbooks⟩ := m.books.reset
    simp only [call, step, TransferLedger.reset, hcount]
    exact ⟨.ok (.dropped _), ⟨hbooks, m.engine⟩, EngineActivity.matches_empty _⟩

/-- **Corresponding units stay so**, through every sequence of calls. -/
theorem moments_matches (same : SameEngine E) {calls calls' : List Call}
    (h : List.Forall₂ (Call.Matches ρ) calls calls') {u : DmaUnit ε} {v : DmaUnit ε'} (m : Matches ρ E u v) :
    List.Forall₂ (Moment.Matches ρ) (u.moments calls) (v.moments calls') := by
  induction h generalizing u v with
  | nil => exact .nil
  | cons hc _ ih =>
    obtain ⟨hanswer, hunit, hactivity⟩ := call_matches same hc m
    exact .cons ⟨hanswer, hactivity, hunit.books, hunit.books.status⟩ (ih hunit)

end DmaUnit
end BoardDriver
