/-
A client of a DMA unit: whoever makes requests, hands them in, raises interrupts and binds channels, in any order.

A request is made first, which takes a ticket, and handed in later or never. The client keeps a `History` of what it has
seen: requests made and handed in, the starts its engine was told, the reports of retirements, and what each reset
dropped. `Posts` is one piece of bookkeeping: it happens at once, no engine runs in the middle of it.

- `run_posts`: whatever the engine does, a run is a sequence of pieces of bookkeeping; so what each of them preserves
  holds after every run (`run_induction`);
- `run_of_unit`: a run of a unit, where making a request and handing it in are one operation, is a run of a client.
-/
import Mathlib.Algebra.Order.Group.Multiset
import Mathlib.Data.List.Induction
import Mathlib.Logic.Relation
import BoardDriver.Proofs.Nesting

namespace BoardDriver

/-! ## History -/

/-- what a client has seen -/
structure History where
  /-- every request made, oldest first -/
  created : List Request := []
  /-- requests made and not handed in -/
  held : List Request := []
  /-- requests handed in, in order -/
  submitted : List Request := []
  /-- every start the engine was told, in order -/
  starts : List Start := []
  /-- every retirement that a completion answered with -/
  reports : Multiset Retired := 0
  /-- what each reset dropped, one list a reset -/
  dropped : List (List Request) := []

namespace History

def make (h : History) (r : Request) : History :=
  { h with created := h.created ++ [r], held := h.held ++ [r] }

def handIn (h : History) (r : Request) : History :=
  { h with held := h.held.erase r, submitted := h.submitted ++ [r] }

def see (h : History) (starts : List Start) (reports : List Retired) : History :=
  { h with starts := h.starts ++ starts, reports := h.reports + reports }

def drop (h : History) (rs : List Request) : History :=
  { h with dropped := h.dropped ++ [rs] }

@[simp] theorem see_nil (h : History) : h.see [] [] = h := by
  simp [see]

@[simp] theorem see_see (h : History) (ss ss' : List Start) (rs rs' : List Retired) :
    (h.see ss rs).see ss' rs' = h.see (ss ++ ss') (rs ++ rs') := by
  simp [see, add_assoc]

theorem see_perm (h : History) (ss : List Start) {rs rs' : List Retired} (hp : rs.Perm rs') :
    h.see ss rs = h.see ss rs' := by
  simp only [see, Multiset.coe_eq_coe.2 hp]

end History

/-! ## Bookkeeping -/

/-- one piece of bookkeeping, and what is seen of it -/
inductive Posts : TransferLedger × History → TransferLedger × History → Prop
  | create (l : TransferLedger) (h : History) (descriptor : TransferDescriptor) (cookie : Cookie) (watched : Bool) :
      Posts (l, h) ((l.newRequest descriptor cookie watched).2.2, h.make (l.newRequest descriptor cookie watched).1)
  | submit (l : TransferLedger) (h : History) {r : Request} : r ∈ h.held →
      Posts (l, h) ((l.submit r).2, (h.handIn r).see (l.submit r).1.toList [])
  | retire {l m : TransferLedger} (h : History) {irq : UInt32} {done : Completed} : l.retire irq = .ok (done, m) →
      Posts (l, h) (m, h.see done.next.toList [done.report])
  | enable (l : TransferLedger) (h : History) (channel : Nat) (irq : UInt32) :
      Posts (l, h) ((l.enable channel irq).2, h)
  | bind (l : TransferLedger) (h : History) (base : UInt32) : Posts (l, h) ((l.bindInterrupts base).2, h)
  | reset (l : TransferLedger) (h : History) :
      Posts (l, h) (l.reset.2, h.drop (l.scheduler.running ++ l.scheduler.pending))

theorem posts_of_retires {l m : TransferLedger} {ds : List Completed} (hr : l.Retires ds m) (h : History) :
    Relation.ReflTransGen Posts (l, h) (m, h.see (ds.filterMap Completed.next) (ds.map Completed.report)) := by
  induction hr generalizing h with
  | nil l => rw [List.filterMap_nil, List.map_nil, History.see_nil]
  | @cons irq done ds l m n hd _ ih =>
    have first : Posts (l, h) (m, h.see done.next.toList [done.report]) := .retire h hd
    have hsee : (h.see done.next.toList [done.report]).see (ds.filterMap Completed.next) (ds.map Completed.report) =
        h.see ((done :: ds).filterMap Completed.next) ((done :: ds).map Completed.report) := by
      rw [History.see_see]
      cases hn : done.next <;> simp [hn]
    exact hsee ▸ (ih (h.see done.next.toList [done.report])).head first

theorem posts_of_settles {σ α : Type} {ledger : σ → TransferLedger} {report? : α → Option Retired} {s t : σ}
    {ss : List Start} {rs : List α} (hs : Settles ledger report? s t ss rs) (h : History) :
    Relation.ReflTransGen Posts (ledger s, h) (ledger t, h.see ss (rs.filterMap report?)) := by
  obtain ⟨ds, hr, rfl, hp⟩ := hs
  rw [← h.see_perm _ hp]
  exact posts_of_retires hr h

/-! ## Clients -/

/-- a unit in the hands of a client, with what the client has seen of it -/
structure Client (ε : Type) extends DmaUnit ε, History

namespace Client

variable {ε : Type}

/-- what a client does -/
inductive Op where
  | create (descriptor : TransferDescriptor) (cookie : Cookie) (watched : Bool)
  | submit (r : Request)
  | complete (irq : UInt32)
  | enable (channel : Nat) (irq : UInt32)
  | bind (base : UInt32)
  | reset
  deriving DecidableEq

/-- a client of a new unit, of which it has seen nothing; tickets and handles may have been dealt before -/
def fresh (channels : Nat) (idle : BitVec 32) (engine : ε) (tickets : TicketCounter) (completions : CompletionTable) :
    Client ε :=
  { scheduler := .fresh channels idle, tickets := tickets, completions := completions, engine := engine }

def books (c : Client ε) : TransferLedger × History := (c.toTransferLedger, c.toHistory)

variable [TransferEngine ε]

/-- carries out what the client does; a request that it does not hold cannot be handed in -/
def step (c : Client ε) : Op → Client ε
  | .create descriptor cookie watched =>
    let (r, _, ledger) := c.newRequest descriptor cookie watched
    { c with toTransferLedger := ledger, toHistory := c.toHistory.make r }
  | .submit r =>
    if r ∈ c.held then
      let (u, activity) := c.toDmaUnit.submit r
      { toDmaUnit := u
        toHistory := (c.toHistory.handIn r).see activity.starts (activity.answers.filterMap DmaUnit.report?) }
    else c
  | .complete irq =>
    let (answer, u, activity) := c.toDmaUnit.complete irq
    { toDmaUnit := u
      toHistory := c.toHistory.see activity.starts ((answer :: activity.answers).filterMap DmaUnit.report?) }
  | .enable channel irq => { c with toTransferLedger := (c.toTransferLedger.enable channel irq).2 }
  | .bind base => { c with toTransferLedger := (c.toTransferLedger.bindInterrupts base).2 }
  | .reset =>
    { c with
      toTransferLedger := c.toTransferLedger.reset.2
      toHistory := c.toHistory.drop (c.scheduler.running ++ c.scheduler.pending) }

def run (c : Client ε) (ops : List Op) : Client ε := ops.foldl step c

theorem run_append (c : Client ε) (ops ops' : List Op) : c.run (ops ++ ops') = (c.run ops).run ops' := by
  simp [run]

/-- whatever the engine does, an operation is a sequence of pieces of bookkeeping -/
theorem step_posts (c : Client ε) (op : Op) : Relation.ReflTransGen Posts c.books (c.step op).books := by
  cases op with
  | create descriptor cookie watched => exact .single (.create _ _ descriptor cookie watched)
  | submit r =>
    simp only [step]
    split
    · rename_i hr
      obtain ⟨ss, hss, hset⟩ := DmaUnit.submit_settles r c.toDmaUnit
      have first : Posts c.books _ := .submit c.toTransferLedger c.toHistory hr
      have rest := posts_of_settles hset ((c.toHistory.handIn r).see (c.toTransferLedger.submit r).1.toList [])
      rw [History.see_see, List.nil_append, ← hss] at rest
      exact rest.head first
    · exact .refl
  | complete irq => exact posts_of_settles (DmaUnit.complete_settles _ irq c.toDmaUnit (Nat.le_refl _)) c.toHistory
  | enable channel irq => exact .single (.enable _ _ channel irq)
  | bind base => exact .single (.bind _ _ base)
  | reset => exact .single (.reset _ _)

theorem run_posts (c : Client ε) (ops : List Op) : Relation.ReflTransGen Posts c.books (c.run ops).books := by
  induction ops generalizing c with
  | nil => exact .refl
  | cons op ops ih => exact (c.step_posts op).trans (ih (c.step op))

/-- **Induction over runs.** What one piece of bookkeeping preserves, every run preserves. -/
theorem run_induction {P : TransferLedger × History → Prop} (hP : ∀ x y, Posts x y → P x → P y) (c : Client ε)
    (ops : List Op) (hc : P c.books) : P (c.run ops).books := by
  have key : ∀ {x y}, Relation.ReflTransGen Posts x y → P x → P y := fun hxy hx => by
    induction hxy with
    | refl => exact hx
    | tail _ hyz ih => exact hP _ _ hyz ih
  exact key (c.run_posts ops) hc

/-! ## Runs of a unit -/

/-- a client of a unit of which it has seen nothing -/
def ofUnit (u : DmaUnit ε) : Client ε := { toDmaUnit := u, toHistory := {} }

theorem step_of_unit (c : Client ε) (hc : c.held = []) (op : DmaUnit.Op) :
    ∃ ops, (c.run ops).toDmaUnit = (c.toDmaUnit.step op).2.1 ∧ (c.run ops).held = [] ∧
      (c.run ops).starts = c.starts ++ (c.toDmaUnit.step op).2.2.starts := by
  cases op with
  | submit descriptor cookie watched =>
    refine ⟨[.create descriptor cookie watched, .submit (c.newRequest descriptor cookie watched).1], ?_⟩
    simp [run, step, DmaUnit.step, History.make, History.handIn, History.see, hc]
  | complete irq => exact ⟨[.complete irq], rfl, hc, rfl⟩
  | enable channel irq => exact ⟨[.enable channel irq], rfl, hc, (List.append_nil _).symm⟩
  | bind base => exact ⟨[.bind base], rfl, hc, (List.append_nil _).symm⟩
  | reset => exact ⟨[.reset], rfl, hc, (List.append_nil _).symm⟩

theorem run_unit_snoc (u : DmaUnit ε) (ops : List DmaUnit.Op) (op : DmaUnit.Op) :
    u.run (ops ++ [op]) = (((u.run ops).1.step op).2.1,
      (u.run ops).2 ++ [(((u.run ops).1.step op).1, ((u.run ops).1.step op).2.2)]) := by
  simp [DmaUnit.run]

/-- **Runs of a unit are runs of a client** who hands in every request as soon as it is made. -/
theorem run_of_unit (u : DmaUnit ε) (ops : List DmaUnit.Op) :
    ∃ ops', ((ofUnit u).run ops').toDmaUnit = (u.run ops).1 ∧
      ((ofUnit u).run ops').starts = (u.run ops).2.flatMap fun entry => entry.2.starts := by
  suffices h : ∃ ops', ((ofUnit u).run ops').toDmaUnit = (u.run ops).1 ∧ ((ofUnit u).run ops').held = [] ∧
      ((ofUnit u).run ops').starts = (u.run ops).2.flatMap fun entry => entry.2.starts by
    obtain ⟨ops', hu, -, hs⟩ := h
    exact ⟨ops', hu, hs⟩
  induction ops using List.reverseRecOn with
  | nil => exact ⟨[], rfl, rfl, rfl⟩
  | append_singleton ops op ih =>
    obtain ⟨ops', hu, hh, hs⟩ := ih
    obtain ⟨more, hu', hh', hs'⟩ := step_of_unit ((ofUnit u).run ops') hh op
    refine ⟨ops' ++ more, ?_, ?_, ?_⟩
    · rw [run_append, hu', hu, run_unit_snoc]
    · rw [run_append, hh']
    · rw [run_append, hs', hs, hu, run_unit_snoc]
      simp

end Client
end BoardDriver
