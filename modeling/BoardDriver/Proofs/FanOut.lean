/-
One publication, copy by copy.

A publication goes over the list of entries once, and on the way it does four things: it skips the dead, asks the living
whether they want the event, puts copies into queues, and counts. A subscriber that is registered more than once is met
more than once, each time as the copies before have left it. What the publication reports is compared here with what it
did to the queues: entry by entry, subscriber by subscriber, and in sum.

- `Registry.Walks`: going over a list of entries, with a log of the copies offered;
- `publish_eq`: a publication goes over the whole list;
- `walks_offerAll`: what it counts is what the log tells;
- `Walks.total_waiting`, `Walks.total_dropped`: what the log tells is what the queues and their counters grew by;
- `Subscriber.iterate_offered`: so many copies to one subscriber fill its queue, and the rest are dropped;
- `publish_fans_out`: the report, the queues and the list after a publication.
-/
import Mathlib.Algebra.GroupWithZero.Nat
import Mathlib.Data.UInt
import BoardDriver.Proofs.RegistryHistory

namespace BoardDriver

/-! ## Several copies to one subscriber -/

namespace Subscriber

variable {s : Subscriber} {e : Event}

/-- number of events that its queue has room for -/
def free (s : Subscriber) : Nat := s.depth - s.queue.length

/-- the subscriber after `k` copies: those that its queue has room for wait, the others are counted -/
def filled (e : Event) (k : Nat) (s : Subscriber) : Subscriber :=
  { s with queue := s.queue ++ List.replicate (min k s.free) e, dropped := s.dropped + UInt64.ofNat (k - s.free) }

/-- the filters look at neither the queue nor its counter -/
@[simp] theorem wants_filled (e : Event) (k : Nat) (s : Subscriber) (p : Payload) :
    (s.filled e k).wants p = s.wants p := rfl

theorem hasRoom_iff (s : Subscriber) : s.hasRoom = true ↔ 0 < s.free := by
  simp only [hasRoom, free, decide_eq_true_eq]
  omega

theorem enqueue_eq (e : Event) (s : Subscriber) :
    s.enqueue e = (if s.hasRoom then .ok () else .error (.queueOverflow s.depth), s.filled e 1) := by
  unfold enqueue filled
  by_cases hroom : s.hasRoom
  case pos =>
    have hfree : 0 < s.free := s.hasRoom_iff.1 hroom
    rw [if_pos hroom, if_pos hroom, Nat.min_eq_left hfree, Nat.sub_eq_zero_of_le hfree]
    simp
  case neg =>
    have hfree : s.free = 0 := Nat.eq_zero_of_not_pos (mt s.hasRoom_iff.2 hroom)
    rw [if_neg hroom, if_neg hroom, hfree]
    simp

theorem free_filled (e : Event) (k : Nat) (s : Subscriber) : (s.filled e k).free = s.free - k := by
  simp only [free, filled, List.length_append, List.length_replicate]
  omega

theorem filled_filled (e : Event) (j k : Nat) (s : Subscriber) : (s.filled e j).filled e k = s.filled e (j + k) := by
  have hqueue : min j s.free + min k (s.free - j) = min (j + k) s.free := by omega
  have hdropped : j - s.free + (k - (s.free - j)) = j + k - s.free := by omega
  have hfree := free_filled e j s
  simp only [filled] at hfree ⊢
  rw [hfree, List.append_assoc, List.replicate_append_replicate, hqueue, UInt64.add_assoc, ← UInt64.ofNat_add, hdropped]

/-- so many copies to a subscriber that wants them -/
theorem iterate_offered (hwants : s.wants e.payload = true) (k : Nat) : (offered e)^[k] s = s.filled e k := by
  induction k with
  | zero => simp [filled]
  | succ k ih =>
    rw [Function.iterate_succ_apply', ih, offered, wants_filled, if_pos hwants, enqueue_eq]
    exact filled_filled e k 1 s

/-- so many copies to one that does not -/
theorem iterate_offered_of_unwanted (hwants : ¬ s.wants e.payload = true) (k : Nat) : (offered e)^[k] s = s :=
  Function.iterate_fixed (show s.offered e = s from if_neg hwants) k

end Subscriber

namespace Registry

/-- going over a list of entries in order. The log has an item for each copy offered: the entry, and whether its
subscriber took the copy. Each entry is met as those before it have left its subscriber. -/
inductive Walks (e : Event) : List Nat → Registry → List (Nat × Bool) → Registry → Prop
  | done (r : Registry) : Walks e [] r [] r
  | dead {n : Nat} {refs : List Nat} {r r' : Registry} {log : List (Nat × Bool)} :
      r.subscriber? n = none → Walks e refs r log r' → Walks e (n :: refs) r log r'
  | unwanted {n : Nat} {s : Subscriber} {refs : List Nat} {r r' : Registry} {log : List (Nat × Bool)} :
      r.subscriber? n = some s → ¬ s.wants e.payload = true → Walks e refs r log r' → Walks e (n :: refs) r log r'
  | taken {n : Nat} {s : Subscriber} {refs : List Nat} {r r' : Registry} {log : List (Nat × Bool)} :
      r.subscriber? n = some s → s.wants e.payload = true → s.queue.length < s.depth →
      Walks e refs (r.put n { s with queue := s.queue ++ [e] }) log r' → Walks e (n :: refs) r ((n, true) :: log) r'
  | full {n : Nat} {s : Subscriber} {refs : List Nat} {r r' : Registry} {log : List (Nat × Bool)} :
      r.subscriber? n = some s → s.wants e.payload = true → s.depth ≤ s.queue.length →
      Walks e refs (r.put n { s with dropped := s.dropped + 1 }) log r' → Walks e (n :: refs) r ((n, false) :: log) r'

open scoped UInt64.CommRing

variable {r r' : Registry} {e : Event} {n : Nat} {s : Subscriber} {refs : List Nat} {log : List (Nat × Bool)}

/-! ## Sums over all subscribers -/

/-- the sum of a quantity over all subscribers that are alive -/
def total {M : Type} [AddCommMonoid M] (g : Subscriber → M) (r : Registry) : M :=
  (r.subscribers.map fun s => s.elim 0 g).sum

theorem sum_map_modify {α M : Type} [AddCommMonoid M] (w : α → M) (f : α → α) {l : List α} {i : Nat} {a : α}
    (h : l[i]? = some a) : ((l.modify i f).map w).sum + w a = (l.map w).sum + w (f a) := by
  induction l generalizing i with
  | nil => simp at h
  | cons b l ih =>
    cases i with
    | zero =>
      obtain rfl : b = a := by simpa using h
      simp only [List.modify_zero_cons, List.map_cons, List.sum_cons]
      rw [add_right_comm, add_right_comm (w b), add_comm (w (f b))]
    | succ i =>
      have hrest := ih (i := i) (by simpa using h)
      simp only [List.modify_succ_cons, List.map_cons, List.sum_cons]
      rw [add_assoc, hrest, add_assoc]

/-- a subscriber that is replaced changes the sum by its own share -/
theorem total_put {M : Type} [AddCommMonoid M] (g : Subscriber → M) (hs : r.subscriber? n = some s) (new : Subscriber) :
    (r.put n new).total g + g s = r.total g + g new := by
  have hplace : r.subscribers[n]? = some (some s) := Option.join_eq_some_iff.1 hs
  exact sum_map_modify (fun s => s.elim 0 g) _ hplace

/-! ## Going over the list -/

/-- whether an entry refers to a subscriber that is alive and wants the event -/
def asks (r : Registry) (e : Event) (n : Nat) : Bool :=
  (r.subscriber? n).any fun s => s.wants e.payload

/-- a subscriber that is replaced by one with the same filters asks for the same -/
theorem asks_put {new : Subscriber} (hs : r.subscriber? n = some s)
    (hsame : new.wants e.payload = s.wants e.payload) : (r.put n new).asks e = r.asks e := by
  funext m
  unfold asks
  rw [subscriber?_put]
  by_cases hm : m = n
  case pos =>
    subst hm
    simp [hs, hsame]
  case neg => simp [hm]

namespace Walks

/-- copies are offered to the entries that ask for the event, in the order of the list -/
theorem map_fst (h : Walks e refs r log r') : log.map Prod.fst = refs.filter (r.asks e) := by
  induction h with
  | done r => rfl
  | dead hs _ ih => rw [ih, List.filter_cons_of_neg (by simp [asks, hs])]
  | unwanted hs hwants _ ih => rw [ih, List.filter_cons_of_neg (by simp [asks, hs, hwants])]
  | @taken n s refs r r' log hs hwants _ _ ih =>
    have hasks : (r.put n { s with queue := s.queue ++ [e] }).asks e = r.asks e := asks_put hs rfl
    rw [List.map_cons, ih, hasks, List.filter_cons_of_pos (by simp [asks, hs, hwants])]
  | @full n s refs r r' log hs hwants _ _ ih =>
    have hasks : (r.put n { s with dropped := s.dropped + 1 }).asks e = r.asks e := asks_put hs rfl
    rw [List.map_cons, ih, hasks, List.filter_cons_of_pos (by simp [asks, hs, hwants])]

/-- the queues grow by the copies taken -/
theorem total_waiting (h : Walks e refs r log r') :
    r'.total (fun s => s.queue.length) = r.total (fun s => s.queue.length) + log.countP Prod.snd := by
  induction h with
  | done r => rfl
  | dead _ _ ih | unwanted _ _ _ ih => exact ih
  | @taken n s refs r r' log hs _ _ _ ih =>
    have hput : (r.put n { s with queue := s.queue ++ [e] }).total (fun s => s.queue.length) + s.queue.length =
        r.total (fun s => s.queue.length) + (s.queue ++ [e]).length := total_put _ hs _
    rw [List.length_append, List.length_singleton] at hput
    rw [ih, List.countP_cons_of_pos rfl]
    omega
  | @full n s refs r r' log hs _ _ _ ih =>
    have hput : (r.put n { s with dropped := s.dropped + 1 }).total (fun s => s.queue.length) + s.queue.length =
        r.total (fun s => s.queue.length) + s.queue.length := total_put _ hs _
    rw [ih, List.countP_cons_of_neg Bool.false_ne_true]
    omega

/-- the counters grow by the copies dropped, modulo their size as each of them does -/
theorem total_dropped (h : Walks e refs r log r') :
    r'.total Subscriber.dropped = r.total Subscriber.dropped + UInt64.ofNat (log.countP (!·.2)) := by
  induction h with
  | done r => exact (add_zero _).symm
  | dead _ _ ih | unwanted _ _ _ ih => exact ih
  | @taken n s refs r r' log hs _ _ _ ih =>
    have hput : (r.put n { s with queue := s.queue ++ [e] }).total Subscriber.dropped + s.dropped =
        r.total Subscriber.dropped + s.dropped := total_put _ hs _
    rw [ih, List.countP_cons_of_neg (by simp), add_right_cancel hput]
  | @full n s refs r r' log hs _ _ _ ih =>
    have hput : (r.put n { s with dropped := s.dropped + 1 }).total Subscriber.dropped + s.dropped =
        r.total Subscriber.dropped + (s.dropped + 1) := total_put _ hs _
    rw [← add_assoc, add_right_comm] at hput
    rw [ih, List.countP_cons_of_pos rfl, add_right_cancel hput, Nat.add_comm, UInt64.ofNat_add, add_assoc]
    rfl

end Walks

end Registry

/-! ## What is counted -/

/-- a report with the copies of a log added -/
def PublishReport.plus (report : PublishReport) (log : List (Nat × Bool)) : PublishReport where
  matched := report.matched + log.length
  delivered := report.delivered + log.countP Prod.snd
  dropped := report.dropped + log.countP (!·.2)

theorem PublishReport.plus_plus (report : PublishReport) (log later : List (Nat × Bool)) :
    (report.plus log).plus later = report.plus (log ++ later) := by
  simp only [plus, List.length_append, List.countP_append, Nat.add_assoc]

namespace Registry

/-- what becomes of a list of entries, the report and the registry -/
def offerAll (e : Event) (report : PublishReport) (r : Registry) (refs : List Nat) : PublishReport × Registry :=
  refs.foldl (fun (report, r) ref => offer e report r ref) (report, r)

theorem offerAll_cons (e : Event) (report : PublishReport) (r : Registry) (n : Nat) (refs : List Nat) :
    offerAll e report r (n :: refs) = offerAll e (offer e report r n).1 (offer e report r n).2 refs := rfl

/-- what is counted is what the log tells -/
theorem walks_offerAll (e : Event) (report : PublishReport) (r : Registry) (refs : List Nat) :
    ∃ log, Walks e refs r log (offerAll e report r refs).2 ∧ (offerAll e report r refs).1 = report.plus log := by
  induction refs generalizing report r with
  | nil => exact ⟨[], .done r, rfl⟩
  | cons n refs ih =>
    rw [offerAll_cons]
    cases hs : r.subscriber? n with
    | none =>
      have hoffer : offer e report r n = (report, r) := by simp only [offer, hs]
      obtain ⟨log, hwalks, hreport⟩ := ih report r
      rw [hoffer]
      exact ⟨log, .dead hs hwalks, hreport⟩
    | some s =>
      by_cases hwants : s.wants e.payload = true
      case neg =>
        have hoffer : offer e report r n = (report, r) := by simp only [offer, hs, if_neg hwants]
        obtain ⟨log, hwalks, hreport⟩ := ih report r
        rw [hoffer]
        exact ⟨log, .unwanted hs hwants hwalks, hreport⟩
      by_cases hroom : s.hasRoom = true
      case pos =>
        have hoffer : offer e report r n = (report.plus [(n, true)], r.put n { s with queue := s.queue ++ [e] }) := by
          simp only [offer, hs, if_pos hwants, Subscriber.enqueue, if_pos hroom]
          rfl
        obtain ⟨log, hwalks, hreport⟩ := ih (report.plus [(n, true)]) (r.put n { s with queue := s.queue ++ [e] })
        rw [hoffer]
        exact ⟨(n, true) :: log, .taken hs hwants (of_decide_eq_true hroom) hwalks, hreport.trans (report.plus_plus ..)⟩
      case neg =>
        have hfull : s.depth ≤ s.queue.length := Nat.le_of_not_lt fun h => hroom (decide_eq_true h)
        have hoffer : offer e report r n = (report.plus [(n, false)], r.put n { s with dropped := s.dropped + 1 }) := by
          simp only [offer, hs, if_pos hwants, Subscriber.enqueue, if_neg hroom]
          rfl
        obtain ⟨log, hwalks, hreport⟩ := ih (report.plus [(n, false)]) (r.put n { s with dropped := s.dropped + 1 })
        rw [hoffer]
        exact ⟨(n, false) :: log, .full hs hwants hfull hwalks, hreport.trans (report.plus_plus ..)⟩

/-- the entries that were dead beforehand may as well stay in the list -/
theorem offerAll_live (e : Event) (report : PublishReport) (r : Registry) (refs : List Nat) :
    offerAll e report r (refs.filter r.isLive) = offerAll e report r refs := by
  induction refs generalizing report r with
  | nil => rfl
  | cons n refs ih =>
    rw [offerAll_cons]
    by_cases hlive : r.isLive n = true
    case pos =>
      -- nobody dies on the way, so the filter is the same for the rest of the list
      have hsame : ∀ m, (offer e report r n).2.isLive m = r.isLive m := by
        intro m
        simp only [isLive, (changes_offer e report r n).subscriber m, Option.isSome_map]
      rw [List.filter_cons_of_pos hlive, offerAll_cons, ← ih, List.filter_congr fun m _ => hsame m]
    case neg =>
      have hnone : r.subscriber? n = none := Option.not_isSome_iff_eq_none.1 hlive
      have hoffer : offer e report r n = (report, r) := by simp only [offer, hnone]
      rw [List.filter_cons_of_neg hlive, ih, hoffer]

/-- a publication is one pass over the whole list, the dead included -/
theorem publish_eq (r : Registry) (e : Event) :
    r.publish e = offerAll e.stampProduced {} { r with entries := r.live } r.entries :=
  offerAll_live e.stampProduced {} { r with entries := r.live } r.entries

/-! ## What a publication comes to -/

/-- what becomes of a subscriber with `k` entries; one that does not want the event stays as it is -/
def served (e : Event) (k : Nat) (s : Subscriber) : Subscriber :=
  if s.wants e.payload then s.filled e.stampProduced k else s

/-- what a publication has reported and left behind agree, copy by copy, subscriber by subscriber and in sum -/
structure FansOut (r : Registry) (e : Event) (report : PublishReport) (r' : Registry) : Prop where
  /-- one copy is offered for each live entry that asks, in the order of the list -/
  copies : ∃ log, Walks e.stampProduced r.entries { r with entries := r.live } log r' ∧
    log.map Prod.fst = r.entries.filter (r.asks e) ∧
    report.delivered = log.countP Prod.snd ∧ report.dropped = log.countP (!·.2)
  matched : report.matched = r.entries.countP (r.asks e)
  accounted : report.delivered + report.dropped = report.matched
  delivered : r'.total (fun s => s.queue.length) = r.total (fun s => s.queue.length) + report.delivered
  dropped : r'.total Subscriber.dropped = r.total Subscriber.dropped + UInt64.ofNat report.dropped
  subscriber : ∀ n, r'.subscriber? n = (r.subscriber? n).map (served e (r.entries.count n))
  length_eq : r'.subscribers.length = r.subscribers.length
  entries : r'.entries = r.entries.filter r.isLive
  liveCount : r'.liveCount = r.liveCount

/-- **A publication fans out exactly and reports truthfully.** For every registry, with any subscribers in any order,
registered any number of times, with queues in any state and dead entries anywhere, and for every event:
- one copy is offered for each live entry whose subscriber wants the event, in the order of the list;
- as many entries matched as the report says, and each of their copies was delivered or dropped;
- all queues together grow by the copies delivered, and all counters, which wrap, by those dropped; a subscriber registered `k` times
gets `k` copies, or as many as its queue had room for;
- one that does not want the event stays as it is;
- afterwards the list has the live entries in their order and no dead ones, and as many are alive as before. -/
theorem publish_fans_out (r : Registry) (e : Event) : FansOut r e (r.publish e).1 (r.publish e).2 := by
  have hpublish := publish_eq r e
  obtain ⟨log, hwalks, hreport⟩ := walks_offerAll e.stampProduced {} { r with entries := r.live } r.entries
  rw [← hpublish] at hwalks hreport
  have hfst : log.map Prod.fst = r.entries.filter (r.asks e) := hwalks.map_fst
  have hmatched : (r.publish e).1.matched = log.length := by rw [hreport]; exact Nat.zero_add _
  have hdelivered : (r.publish e).1.delivered = log.countP Prod.snd := by rw [hreport]; exact Nat.zero_add _
  have hdropped : (r.publish e).1.dropped = log.countP (!·.2) := by rw [hreport]; exact Nat.zero_add _
  have hsubscriber : ∀ n, (r.publish e).2.subscriber? n = (r.subscriber? n).map (served e (r.entries.count n)) := by
    intro n
    rw [subscriber?_publish]
    congr 1
    funext s
    by_cases hwants : s.wants e.payload = true
    case pos =>
      have hstamped : s.wants e.stampProduced.payload = true := hwants
      rw [Subscriber.iterate_offered hstamped, served, if_pos hwants]
    case neg =>
      have hstamped : ¬ s.wants e.stampProduced.payload = true := hwants
      rw [Subscriber.iterate_offered_of_unwanted hstamped, served, if_neg hwants]
  have hentries := r.entries_publish e
  have hlive : ∀ n, (r.publish e).2.isLive n = r.isLive n := by
    intro n
    rw [isLive, hsubscriber, Option.isSome_map]
    rfl
  exact {
    copies := ⟨log, hwalks, hfst, hdelivered, hdropped⟩
    matched := by rw [hmatched, List.countP_eq_length_filter, ← hfst, List.length_map]
    accounted := by
      rw [hmatched, hdelivered, hdropped, List.length_eq_countP_add_countP Prod.snd]
      simp
    delivered := by rw [hwalks.total_waiting, hdelivered]; rfl
    dropped := by rw [hwalks.total_dropped, hdropped]; rfl
    subscriber := hsubscriber
    length_eq := r.length_publish e
    entries := hentries
    liveCount := by
      unfold liveCount
      rw [hentries, List.countP_filter]
      exact List.countP_congr fun n _ => by simp [hlive n] }

/-- a subscriber with room for one event is registered three times, with a dead entry in between and one that does not
want the event at the end: two of its three copies are dropped -/
example :
    let r := run {} [.add ⟨1⟩ 1, .add ⟨2⟩ 4, .add ⟨3⟩ 4, .register 0, .register 1, .register 0, .register 2,
      .register 0, .use 0 (.setEnableMask 1), .use 0 (.setIrqMask 6), .forget 1]
    (r.publish (.ofPayload (.interrupt 2))).1 = { matched := 3, delivered := 1, dropped := 2 } ∧
      (r.publish (.ofPayload (.interrupt 2))).2.entries = [0, 0, 2, 0] := by decide

end Registry
end BoardDriver
