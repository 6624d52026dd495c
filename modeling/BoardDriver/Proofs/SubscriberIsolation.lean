/-
One subscriber among others.

Whoever else uses the registry, a subscriber that is registered once sees two things only: the events that are published
and what its owner does with it. What becomes of it is a function of these, so nothing that happens to its neighbours
shows in it.

- `Op.seenBy`, `Op.spares`: what a subscriber sees of a use of the registry, and which uses leave it registered once;
- `step_spared`, `run_spared`: what it has seen is all that has become of it;
- `Subscriber.conserved_see`: a queue gives out what it has accepted, in order;
- `isolated_queue`: the whole law: what is accepted and what is dropped, the order, the bound, the stamps, and that
  histories that differ in the neighbours only are the same to it;
- `pending_delivered_republished`: the stamp of delivery alone does not tell a pending event from one that was read.
-/
import BoardDriver.Proofs.RegistryHistory

namespace BoardDriver

def SharesBit (a b : UInt32) : Prop := ∃ i, a.toBitVec.getLsbD i = true ∧ b.toBitVec.getLsbD i = true

theorem and_ne_zero_iff (a b : UInt32) : a &&& b ≠ 0 ↔ SharesBit a b := by
  have hzero : a &&& b = 0 ↔ ∀ i, (a.toBitVec &&& b.toBitVec).getLsbD i = false := by
    rw [← UInt32.toBitVec_inj, UInt32.toBitVec_and]
    constructor
    · intro h i
      rw [h]
      exact BitVec.getLsbD_zero
    · intro h
      exact BitVec.eq_of_getLsbD_eq fun i _ => (h i).trans BitVec.getLsbD_zero.symm
  rw [Ne, hzero, not_forall]
  simp only [BitVec.getLsbD_and, Bool.not_eq_false, Bool.and_eq_true, SharesBit]

namespace Subscriber

/-- what a subscriber sees: an event that is published, or a use by its owner -/
inductive Sight where
  | published (e : Event)
  | used (op : Op)
  deriving DecidableEq, Repr

/-- the masks match: the bit of the kind is set; an interrupt shares a bit with the interrupt mask, and the end of a
transfer carries the subscriber's own id -/
def Matches (s : Subscriber) (p : Payload) : Prop :=
  SharesBit s.enableMask p.kind.bit ∧
    match p with
    | .interrupt source => SharesBit s.irqMask source
    | .dmaDone _ _ cookie => cookie = s.id
    | .registerWrite _ | .registerRead _ => True

/-- fewer events are pending than the queue has places -/
def Fits (s : Subscriber) : Prop := s.queue.length < s.depth

theorem wants_iff (s : Subscriber) (p : Payload) : s.wants p = true ↔ s.Matches p := by
  unfold wants Matches
  rw [Bool.and_eq_true, bne_iff_ne, and_ne_zero_iff]
  refine and_congr_right fun _ => ?_
  cases p with
  | interrupt source => exact bne_iff_ne.trans (and_ne_zero_iff _ _)
  | dmaDone ticket elapsed cookie => exact beq_iff_eq
  | registerWrite access | registerRead access => exact iff_of_true rfl trivial

instance (s : Subscriber) (p : Payload) : Decidable (s.Matches p) := decidable_of_iff _ (s.wants_iff p)

instance (s : Subscriber) : Decidable s.Fits := inferInstanceAs (Decidable (_ < _))

/-- the subscriber after it has seen something; the registry stamps what is published -/
def see (s : Subscriber) : Sight → Subscriber
  | .published e => s.offered e.stampProduced
  | .used op => s.serve op

/-- the event it accepts of what it sees -/
def accepts (s : Subscriber) : Sight → List Event
  | .published e => if s.Matches e.payload ∧ s.Fits then [e.stampProduced] else []
  | .used _ => []

/-- the event it drops of what it sees -/
def drops (s : Subscriber) : Sight → List Event
  | .published e => if s.Matches e.payload ∧ ¬ s.Fits then [e.stampProduced] else []
  | .used _ => []

/-- the events that leave its queue on what it sees: the one its owner takes, or all that it clears -/
def gives (s : Subscriber) : Sight → List Event
  | .used .dequeue => s.dequeue.1.toList
  | .used .clear => s.queue
  | _ => []

/-- the moments of a subscriber's life: each thing it sees, with the subscriber as it is then -/
def moments (s : Subscriber) : List Sight → List (Subscriber × Sight)
  | [] => []
  | x :: xs => (s, x) :: (s.see x).moments xs

/-- whether the owner leaves it to the registry to fill the queue -/
def Sight.isPlain : Sight → Bool
  | .used (.enqueue _) => false
  | _ => true

@[simp] theorem see_id (s : Subscriber) (x : Sight) : (s.see x).id = s.id := by
  cases x with
  | published e => exact offered_id _ s
  | used op => exact serve_id s op

@[simp] theorem see_depth (s : Subscriber) (x : Sight) : (s.see x).depth = s.depth := by
  cases x with
  | published e => exact offered_depth _ s
  | used op => exact serve_depth s op

theorem foldl_see_fixed (xs : List Sight) (s : Subscriber) :
    (xs.foldl see s).id = s.id ∧ (xs.foldl see s).depth = s.depth := by
  induction xs generalizing s with
  | nil => exact ⟨rfl, rfl⟩
  | cons x xs ih =>
    obtain ⟨hid, hdepth⟩ := ih (s.see x)
    exact ⟨hid.trans (see_id s x), hdepth.trans (see_depth s x)⟩

/-- what a published event does: it joins the queue if it is accepted, it is counted if it matches and finds the queue
full, and nothing else happens -/
theorem see_published (s : Subscriber) (e : Event) :
    s.see (.published e) = { s with
      queue := if s.Matches e.payload ∧ s.Fits then s.queue ++ [e.stampProduced] else s.queue
      dropped := if s.Matches e.payload ∧ ¬ s.Fits then s.dropped + 1 else s.dropped } := by
  have hroom : s.hasRoom = true ↔ s.Fits := decide_eq_true_iff
  have hwants : s.wants e.stampProduced.payload = true ↔ s.Matches e.payload := s.wants_iff _
  simp only [see, offered_eq, hroom, hwants]

theorem dropped_see {s : Subscriber} {x : Sight} (hx : x.isPlain) :
    (s.see x).dropped = s.dropped + UInt64.ofNat (s.drops x).length := by
  cases x with
  | published e =>
    simp only [see_published, drops]
    by_cases hout : s.Matches e.payload ∧ ¬ s.Fits
    · simp [if_pos hout]
    · simp [if_neg hout]
  | used op =>
    cases op with
    | enqueue e => cases hx
    | dequeue =>
      simp only [see, serve, Subscriber.dequeue]
      split <;> simp [drops]
    | setEnableMask mask | setIrqMask mask | clear => simp [see, serve, Subscriber.clear, drops]

/-- what is in the queue has just been accepted, or was there before -/
theorem queue_see {s : Subscriber} {x : Sight} (hx : x.isPlain) : (s.see x).queue <:+ s.queue ++ s.accepts x := by
  cases x with
  | published e =>
    simp only [see_published, accepts]
    by_cases hin : s.Matches e.payload ∧ s.Fits
    · simp only [if_pos hin, List.suffix_rfl]
    · simp only [if_neg hin, List.append_nil, List.suffix_rfl]
  | used op =>
    simp only [accepts, List.append_nil]
    cases op with
    | enqueue e => cases hx
    | dequeue =>
      simp only [see, serve, Subscriber.dequeue]
      split
      case h_1 => exact List.suffix_rfl
      case h_2 first rest hqueue => exact hqueue ▸ List.suffix_cons first rest
    | setEnableMask mask | setIrqMask mask => exact List.suffix_rfl
    | clear => exact List.nil_suffix

/-- but for the stamp of delivery, what leaves a queue and what stays in it is what was there and what it accepts -/
theorem conserved_see {s : Subscriber} {x : Sight} (hx : x.isPlain) :
    (s.gives x ++ (s.see x).queue).map Event.stampDelivered =
      (s.queue ++ s.accepts x).map Event.stampDelivered := by
  cases x with
  | published e =>
    simp only [see_published, accepts, gives, List.nil_append]
    by_cases hin : s.Matches e.payload ∧ s.Fits
    · simp only [if_pos hin]
    · simp only [if_neg hin, List.append_nil]
  | used op =>
    simp only [accepts, List.append_nil]
    cases op with
    | enqueue e => cases hx
    | dequeue =>
      cases hqueue : s.queue with
      | nil => simp [gives, see, serve, Subscriber.dequeue, hqueue]
      | cons e rest => simp [gives, see, serve, Subscriber.dequeue, hqueue, Event.stampDelivered]
    | setEnableMask mask | setIrqMask mask => rfl
    | clear => simp [gives, see, serve, Subscriber.clear]

/-- no event joins a queue that is full -/
theorem length_see_le {s : Subscriber} {x : Sight} (hx : x.isPlain) (h : s.queue.length ≤ s.depth) :
    (s.see x).queue.length ≤ s.depth := by
  cases x with
  | published e =>
    rw [see_published]
    by_cases hin : s.Matches e.payload ∧ s.Fits
    · simp only [if_pos hin, List.length_append, List.length_singleton]
      exact hin.2
    · simp only [if_neg hin]
      exact h
  | used op =>
    have hsuffix := queue_see (s := s) hx
    simp only [accepts, List.append_nil] at hsuffix
    exact Nat.le_trans hsuffix.length_le h

/-- what a life has brought: the events accepted, dropped and given out in it, in order -/
def acceptedOf (life : List (Subscriber × Sight)) : List Event := life.flatMap fun (s, x) => s.accepts x

def droppedOf (life : List (Subscriber × Sight)) : List Event := life.flatMap fun (s, x) => s.drops x

def givenOf (life : List (Subscriber × Sight)) : List Event := life.flatMap fun (s, x) => s.gives x

/-- the laws of one moment, over a life of a subscriber that nobody but the registry fills -/
theorem life_laws {xs : List Sight} {s : Subscriber} (hplain : ∀ x ∈ xs, x.isPlain)
    (hbound : s.queue.length ≤ s.depth) :
    let life := s.moments xs
    let last := xs.foldl see s
    last.queue.length ≤ s.depth ∧
      last.dropped = s.dropped + UInt64.ofNat (droppedOf life).length ∧
      last.queue <:+ s.queue ++ acceptedOf life ∧
      (givenOf life ++ last.queue).map Event.stampDelivered =
        (s.queue ++ acceptedOf life).map Event.stampDelivered := by
  induction xs generalizing s with
  | nil => exact ⟨hbound, by simp [droppedOf, moments], by simp [acceptedOf, moments], by simp [acceptedOf, givenOf, moments]⟩
  | cons x xs ih =>
    have hx : x.isPlain := hplain x List.mem_cons_self
    have hfirst := length_see_le hx hbound
    obtain ⟨hlength, hdropped, hsuffix, hconserved⟩ :=
      ih (s := s.see x) (fun y hy => hplain y (List.mem_cons_of_mem _ hy)) (by rwa [see_depth])
    rw [see_depth] at hlength
    refine ⟨hlength, ?_, ?_, ?_⟩
    · refine hdropped.trans ?_
      simp only [dropped_see hx, droppedOf, moments, List.flatMap_cons, List.length_append, UInt64.ofNat_add,
        UInt64.add_assoc]
    · obtain ⟨before, hbefore⟩ := queue_see (s := s) hx
      refine hsuffix.trans ⟨before, ?_⟩
      simp only [acceptedOf, moments, List.flatMap_cons, ← List.append_assoc, hbefore]
    · simp only [acceptedOf, givenOf, moments, List.flatMap_cons, List.append_assoc, List.map_append,
        List.foldl_cons] at hconserved ⊢
      rw [hconserved, ← List.append_assoc, ← List.append_assoc]
      congr 1
      simpa only [List.map_append] using conserved_see (s := s) hx

end Subscriber

namespace Registry

open Subscriber (Sight acceptedOf droppedOf givenOf)

/-- what a subscriber sees of a use of the registry -/
def Op.seenBy (ref : Nat) : Op → Option Sight
  | .publish e => some (.published e)
  | .use used op => if used = ref then some (.used op) else none
  | _ => none

/-- whether a use leaves a subscriber alive, registered as often as it is, and its queue for the registry to fill -/
def Op.spares (ref : Nat) (id : Cookie) : Op → Bool
  | .register new => new != ref
  | .unregister name => name != id
  | .forget gone => gone != ref
  | .use used (.enqueue _) => used != ref
  | _ => true

/-- the moments of a subscriber's life in a history -/
def life (ref : Nat) : Registry → List Op → List (Subscriber × Sight)
  | _, [] => []
  | r, op :: history =>
    (match r.subscriber? ref, op.seenBy ref with
      | some s, some x => [(s, x)]
      | _, _ => []) ++ life ref (r.step op) history

variable {r : Registry} {ref : Nat} {s : Subscriber} {history : List Op}

theorem Op.isPlain_of_seenBy {op : Op} {id : Cookie} {x : Sight} (h : op.spares ref id) (hx : op.seenBy ref = some x) :
    x.isPlain := by
  cases op with
  | publish e =>
    cases hx
    rfl
  | use used op =>
    simp only [Op.seenBy, Option.ite_none_right_eq_some] at hx
    obtain ⟨rfl, hx⟩ := hx
    cases hx
    cases op with
    | enqueue e => simp [Op.spares] at h
    | setEnableMask mask | setIrqMask mask | dequeue | clear => rfl
  | add id depth | register new | unregister name | forget gone => cases hx

theorem count_register (h : ref ∉ r.entries) : (r.register ref).entries.count ref = 1 := by
  refine List.count_append.trans ?_
  rw [List.count_eq_zero_of_not_mem h, List.count_singleton_self]

/-- a use that spares a subscriber changes it only as far as it sees the use -/
theorem step_spared {op : Op} (hs : r.subscriber? ref = some s) (hone : r.entries.count ref = 1)
    (h : op.spares ref s.id) :
    (r.step op).subscriber? ref = some ((op.seenBy ref).elim s s.see) ∧ (r.step op).entries.count ref = 1 := by
  cases op with
  | add id depth =>
    have hold : ref ≠ r.subscribers.length := Nat.ne_of_lt (lt_length_of_subscriber? hs)
    refine ⟨?_, hone⟩
    simp only [step, subscriber?_add, if_neg hold]
    exact hs
  | register new =>
    simp only [step]
    split
    · refine ⟨hs, List.count_append.trans ?_⟩
      rw [hone, List.count_singleton, if_neg (by simpa [Op.spares] using h)]
    · exact ⟨hs, hone⟩
  | unregister name =>
    refine ⟨hs, (List.count_filter ?_).trans hone⟩
    have hname : s.id ≠ name := by
      intro e
      simp [Op.spares, e] at h
    simp [hs, hname]
  | forget gone =>
    refine ⟨?_, hone⟩
    have hother : ref ≠ gone := by
      intro e
      simp [Op.spares, e] at h
    simp only [step, subscriber?_forget, if_neg hother]
    exact hs
  | publish e =>
    have hlive : r.isLive ref = true := (isLive_iff ref).2 ⟨s, hs⟩
    refine ⟨?_, ?_⟩
    · simp only [step, subscriber?_publish, hs, hone]
      rfl
    · simp only [step, entries_publish, List.count_filter hlive, hone]
  | use used op =>
    refine ⟨?_, (congrArg _ (entries_use r used op)).trans hone⟩
    rw [subscriber?_use, hs]
    by_cases heq : used = ref
    · simp only [Option.map_some, if_pos heq.symm, Op.seenBy, if_pos heq]
      rfl
    · have heq' : ¬ ref = used := fun e => heq e.symm
      simp only [Option.map_some, if_neg heq', Op.seenBy, if_neg heq]
      rfl

/-- what a subscriber has seen is all that has become of it -/
theorem run_spared (hs : r.subscriber? ref = some s) (hone : r.entries.count ref = 1)
    (h : ∀ op ∈ history, op.spares ref s.id) :
    (r.run history).subscriber? ref = some ((history.filterMap (Op.seenBy ref)).foldl Subscriber.see s) ∧
      (r.run history).entries.count ref = 1 ∧
      life ref r history = s.moments (history.filterMap (Op.seenBy ref)) := by
  induction history generalizing r s with
  | nil => exact ⟨hs, hone, rfl⟩
  | cons op history ih =>
    obtain ⟨hs', hone'⟩ := step_spared hs hone (h op List.mem_cons_self)
    have hrest : ∀ op' ∈ history, op'.spares ref s.id := fun op' hop' => h op' (List.mem_cons_of_mem _ hop')
    rw [run_cons, life, hs]
    cases hx : op.seenBy ref with
    | none =>
      rw [hx] at hs'
      rw [List.filterMap_cons_none hx]
      exact ih hs' hone' hrest
    | some x =>
      rw [hx] at hs'
      rw [List.filterMap_cons_some hx]
      obtain ⟨hlast, hcount, hlife⟩ := ih hs' hone' (by simpa using hrest)
      exact ⟨hlast, hcount, congrArg _ hlife⟩

/-- what has become of a subscriber `new`, registered once, at the end of a history -/
structure Isolated (start : Registry) (ref : Nat) (new : Subscriber) (history : List Op) (s : Subscriber) : Prop where
  alive : (start.run history).subscriber? ref = some s
  id_eq : s.id = new.id
  depth_eq : s.depth = new.depth
  /-- the next event to be published is accepted if the masks match it and there is a place for it; if they match and
  there is none it is counted, and otherwise nothing happens -/
  published : ∀ e, ((start.run history).step (.publish e)).subscriber? ref = some { s with
    queue := if s.Matches e.payload ∧ s.queue.length < s.depth then s.queue ++ [e.stampProduced] else s.queue
    dropped := if s.Matches e.payload ∧ ¬ s.queue.length < s.depth then s.dropped + 1 else s.dropped }
  /-- its owner finds it as if it were alone -/
  used : ∀ op, ((start.run history).step (.use ref op)).subscriber? ref = some (s.serve op)
  /-- what others do, as long as it stays registered, does not show in it -/
  others : ∀ op : Op, op.spares ref new.id → op.seenBy ref = none →
    ((start.run history).step op).subscriber? ref = some s
  /-- what it has given out and what is pending is what it has accepted, in the order of publication -/
  order : (givenOf (life ref start history) ++ s.queue).map Event.stampDelivered =
    (acceptedOf (life ref start history)).map Event.stampDelivered
  /-- every event that it dropped has been counted -/
  dropped : s.dropped = new.dropped + UInt64.ofNat (droppedOf (life ref start history)).length
  bound : s.queue.length ≤ s.depth
  /-- what is pending is as it was when it was accepted -/
  waiting : s.queue <:+ acceptedOf (life ref start history)
  produced : ∀ e ∈ s.queue, e.produced = true
  /-- but for the stamp of the registry it is as it was published; so it has the stamp of a reader if it had been read
  before and was published once more -/
  stamps : ∀ e ∈ s.queue, ∃ source, .publish source ∈ history ∧ e = source.stampProduced
  taken : ∀ e, s.dequeue.1 = some e → e.produced = true ∧ e.delivered = true

theorem Op.seenBy_eq_published {op : Op} {e : Event} (h : op.seenBy ref = some (.published e)) : op = .publish e := by
  cases op with
  | publish e =>
    cases h
    rfl
  | use used op =>
    simp only [Op.seenBy, Option.ite_none_right_eq_some] at h
    cases h.2
  | add id depth | register new | unregister name | forget gone => cases h

/-- a moment is something that a use of the registry shows -/
theorem mem_life {m : Subscriber × Sight} (h : m ∈ life ref r history) :
    ∃ op ∈ history, op.seenBy ref = some m.2 := by
  induction history generalizing r with
  | nil => cases h
  | cons op history ih =>
    rcases List.mem_append.1 h with h | h
    · refine ⟨op, List.mem_cons_self, ?_⟩
      split at h
      case h_1 s x hs hx =>
        rw [List.mem_singleton.1 h]
        exact hx
      case h_2 => cases h
    · obtain ⟨op', hop', hx⟩ := ih h
      exact ⟨op', List.mem_cons_of_mem _ hop', hx⟩

/-- every event that a subscriber accepts has been published, and stamped -/
theorem mem_acceptedOf_life {e : Event} (h : e ∈ acceptedOf (life ref r history)) :
    ∃ source, .publish source ∈ history ∧ e = source.stampProduced := by
  obtain ⟨⟨s, x⟩, hmoment, he⟩ := List.mem_flatMap.1 h
  obtain ⟨op, hop, hx⟩ := mem_life hmoment
  cases x with
  | used op => cases he
  | published source =>
    refine ⟨source, Op.seenBy_eq_published hx ▸ hop, ?_⟩
    simp only [Subscriber.accepts] at he
    split at he
    · exact List.mem_singleton.1 he
    · cases he

/-- **Each subscriber is a bounded queue of its own.** Take any registry, and a subscriber that is alive, has an empty
queue and is registered now, for the first time. Over every history that does not register it once more, take its id
off the list, let go of it or go round the registry to fill its queue, it is what `Isolated` says; and any other history
of any other registry in which the same events are published and its owner does the same comes to the same thing, moment
by moment. -/
theorem isolated_queue {new : Subscriber} (hnew : r.subscriber? ref = some new) (hempty : new.queue = [])
    (hfirst : ref ∉ r.entries) (hspared : ∀ op ∈ history, op.spares ref new.id) :
    ∃ s, Isolated (r.register ref) ref new history s ∧
      ∀ (r' : Registry) (ref' : Nat) (history' : List Op), r'.subscriber? ref' = some new → ref' ∉ r'.entries →
        (∀ op ∈ history', op.spares ref' new.id) →
        history'.filterMap (Op.seenBy ref') = history.filterMap (Op.seenBy ref) →
        ((r'.register ref').run history').subscriber? ref' = some s ∧
          life ref' (r'.register ref') history' = life ref (r.register ref) history := by
  obtain ⟨halive, hone, hlife⟩ := run_spared (r := r.register ref) hnew (count_register hfirst) hspared
  have hplain : ∀ x ∈ history.filterMap (Op.seenBy ref), x.isPlain := by
    intro x hx
    obtain ⟨op, hop, hsight⟩ := List.mem_filterMap.1 hx
    exact Op.isPlain_of_seenBy (hspared op hop) hsight
  have hlaws := Subscriber.life_laws (s := new) hplain (by simp [hempty])
  obtain ⟨hid, hdepth⟩ := Subscriber.foldl_see_fixed (history.filterMap (Op.seenBy ref)) new
  obtain ⟨s, hs⟩ : ∃ s, (history.filterMap (Op.seenBy ref)).foldl Subscriber.see new = s := ⟨_, rfl⟩
  simp only [hs, ← hlife, hempty, List.nil_append] at hlaws hid hdepth halive
  obtain ⟨hbound, hdropped, hwaiting, horder⟩ := hlaws
  have hnext : ∀ op : Op, op.spares ref new.id →
      (((r.register ref).run history).step op).subscriber? ref = some ((op.seenBy ref).elim s s.see) := by
    intro op hop
    exact (step_spared halive hone (hid ▸ hop)).1
  have hstamps : ∀ e ∈ s.queue, ∃ source, .publish source ∈ history ∧ e = source.stampProduced :=
    fun e he => mem_acceptedOf_life (hwaiting.subset he)
  have hproduced : ∀ e ∈ s.queue, e.produced = true := by
    intro e he
    obtain ⟨source, -, rfl⟩ := hstamps e he
    rfl
  refine ⟨s, ?_, ?_⟩
  · exact {
      alive := halive
      id_eq := hid
      depth_eq := hdepth
      published := fun e => (hnext (.publish e) rfl).trans (congrArg some (s.see_published e))
      used := by
        intro op
        rw [subscriber?_use, halive]
        simp
      others := by
        intro op hop hunseen
        rw [hnext op hop, hunseen]
        rfl
      order := horder
      dropped := hdropped
      bound := hdepth ▸ hbound
      waiting := hwaiting
      produced := hproduced
      stamps := hstamps
      taken := by
        intro e he
        cases hqueue : s.queue with
        | nil => simp [Subscriber.dequeue, hqueue] at he
        | cons first rest =>
          simp only [Subscriber.dequeue, hqueue, Option.some.injEq] at he
          subst he
          exact ⟨hproduced first (hqueue ▸ List.mem_cons_self), rfl⟩ }
  · intro r' ref' history' hnew' hfirst' hspared' hsame
    obtain ⟨halive', -, hlife'⟩ := run_spared (r := r'.register ref') hnew' (count_register hfirst') hspared'
    rw [hsame] at halive' hlife'
    exact ⟨hs ▸ halive', hlife'.trans hlife.symm⟩

/-- a subscriber with one place, between a neighbour that is registered twice and one that vanishes: it accepts the
first interrupt, drops the second, is not told of a third that its masks do not match, and accepts a fourth after it
has been read -/
theorem isolated_queue_vanishingNeighbour :
    let r := run {} [.add ⟨1⟩ 1, .add ⟨2⟩ 4, .add ⟨3⟩ 4, .register 1, .register 2,
      .use 0 (.setEnableMask 1), .use 0 (.setIrqMask 6)]
    let new : Subscriber := { id := ⟨1⟩, enableMask := 1, irqMask := 6, depth := 1 }
    let told (source : UInt32) : Event := { payload := .interrupt source, produced := true }
    let history : List Op := [.publish (.ofPayload (.interrupt 2)), .forget 2, .publish (.ofPayload (.interrupt 4)),
      .register 1, .use 1 .clear, .use 0 .dequeue, .unregister ⟨2⟩, .publish (.ofPayload (.interrupt 1)),
      .publish (.ofPayload (.interrupt 6))]
    r.subscriber? 0 = some new ∧ 0 ∉ r.entries ∧ (∀ op ∈ history, op.spares 0 new.id) ∧
      acceptedOf (life 0 (r.register 0) history) = [told 2, told 6] ∧
      ∃ s, Isolated (r.register 0) 0 new history s ∧ s.queue = [told 6] ∧ s.dropped = 1 := by
  intro r new told history
  have hnew : r.subscriber? 0 = some new := by decide
  have hfirst : 0 ∉ r.entries := by decide
  have hspared : ∀ op ∈ history, op.spares 0 new.id := by decide
  obtain ⟨s, hs, -⟩ := isolated_queue hnew rfl hfirst hspared
  have hlast : ((r.register 0).run history).subscriber? 0 = some { new with queue := [told 6], dropped := 1 } := by
    decide
  cases Option.some.inj (hs.alive.symm.trans hlast)
  exact ⟨hnew, hfirst, hspared, by decide, _, hs, rfl, rfl⟩

/-- the owner reads an event and publishes it once more: it waits with the stamp that it got when it was read -/
theorem pending_delivered_republished :
    let r := run {} [.add ⟨1⟩ 1, .use 0 (.setEnableMask 1), .use 0 (.setIrqMask 6)]
    let new : Subscriber := { id := ⟨1⟩, enableMask := 1, irqMask := 6, depth := 1 }
    let made : Event := .ofPayload (.interrupt 2)
    let read : Event := made.stampProduced.stampDelivered
    let history : List Op := [.publish made, .use 0 .dequeue, .publish read]
    r.subscriber? 0 = some new ∧ 0 ∉ r.entries ∧ (∀ op ∈ history, op.spares 0 new.id) ∧
      givenOf (life 0 (r.register 0) history) = [read] ∧
      ∃ s, ((r.register 0).run history).subscriber? 0 = some s ∧ ¬ ∀ e ∈ s.queue, e.delivered = false := by
  intro r new made read history
  refine ⟨by decide, by decide, by decide, by decide, { new with queue := [read] }, by decide, ?_⟩
  intro hunread
  cases hunread read List.mem_cons_self

end Registry
end BoardDriver
