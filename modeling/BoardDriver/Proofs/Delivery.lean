/-
What an event becomes on its way to a session's queue.

Each open session has one entry in the registry, and its number tells its id. A publication goes to every open session
once, and each decides for itself; so what it does to a queue can be said one session at a time, with nothing about the
others.

- `Enrolled`: one entry for each open session, under its own name;
- `Enrolled.publish`: a session is told of the end of a transfer if it is its own, if it asked for such events and if
  its queue has room; no other publication tells of one;
- `Enrolled.opened`, `Enrolled.closed`: sessions that come and go leave the others alone;
- `Dispatcher.Idle.dispatch`: a worker with nothing to do publishes an event at once, unless it pauses;
- `Dispatcher.Behind.dispatch`: one that pauses with an event waiting stays behind, whatever comes.
-/
import Mathlib.Algebra.Group.Nat.Defs
import Mathlib.Data.List.Nodup
import Mathlib.Logic.Function.Iterate
import BoardDriver.Event.Dispatcher

namespace BoardDriver

/-- the ends of transfers that events tell of, in order -/
def dones (events : List Event) : List Payload := (events.map Event.payload).filter fun p => p.kind = .dmaDone

@[simp] theorem dones_append (es fs : List Event) : dones (es ++ fs) = dones es ++ dones fs := by
  simp [dones]

@[simp] theorem dones_nil : dones [] = [] := rfl

/-- a reader's stamp does not change what happened -/
@[simp] theorem dones_map_stampDelivered (es : List Event) : dones (es.map Event.stampDelivered) = dones es := by
  unfold dones
  rw [List.map_map]
  rfl

theorem dones_of_plain {e : Event} (h : e.payload.kind ≠ .dmaDone) : dones [e] = [] := by
  simp [dones, h]

/-! ## One subscriber -/

namespace Subscriber

/-- the subscriber after an event has been offered to it -/
def offered (e : Event) (s : Subscriber) : Subscriber := if s.wants e.payload then (s.enqueue e).2 else s

theorem offered_eq (e : Event) (s : Subscriber) :
    s.offered e = { s with
      queue := if s.wants e.payload ∧ s.hasRoom then s.queue ++ [e] else s.queue
      dropped := if s.wants e.payload ∧ ¬ s.hasRoom then s.dropped + 1 else s.dropped } := by
  unfold offered enqueue
  by_cases hw : s.wants e.payload <;> by_cases hr : s.hasRoom <;> simp [hw, hr]

theorem dones_offered (e : Event) (s : Subscriber) :
    dones (s.offered e).queue = dones s.queue ++ if s.wants e.payload ∧ s.hasRoom then dones [e] else [] := by
  rw [offered_eq]
  by_cases h : s.wants e.payload ∧ s.hasRoom
  · simp only [if_pos h, dones_append]
  · simp only [if_neg h, List.append_nil]

theorem wants_dmaDone_iff (s : Subscriber) (ticket : Ticket) (elapsed : Duration) (cookie : Cookie) :
    s.wants (.dmaDone ticket elapsed cookie) ↔ s.enableMask &&& EventKind.dmaDone.bit ≠ 0 ∧ cookie = s.id := by
  simp [wants, Payload.kind]

end Subscriber

/-! ## The registry -/

/-- id of the session with a number; they are given out from 1 on -/
def sessionName (number : Nat) : Cookie := ⟨UInt64.ofNat (number + 1)⟩

theorem sessionName_injOn {m n : Nat} (hm : m < 2 ^ 64) (hn : n < 2 ^ 64) (h : sessionName m = sessionName n) :
    m = n := by
  have hnat := congrArg (fun c : Cookie => c.value.toNat) h
  simp only [sessionName, UInt64.toNat_ofNat'] at hnat
  omega

namespace Registry

/-- the events that wait for a session, none if it is not open -/
def waiting (r : Registry) (number : Nat) : List Event := ((r.subscriber? number).map Subscriber.queue).getD []

/-- whether a session is open, asked for the ends of transfers and has fewer than `depth` events waiting -/
def receives (r : Registry) (depth number : Nat) : Bool :=
  (r.subscriber? number).any fun s => s.enableMask &&& EventKind.dmaDone.bit != 0 && decide (s.queue.length < depth)

/-- one entry for each open session, which goes by the name of its number and has a queue of `depth` places -/
structure Enrolled (depth : Nat) (r : Registry) : Prop where
  nodup : r.entries.Nodup
  mem_entries : ∀ n, n ∈ r.entries ↔ (r.subscriber? n).isSome
  named : ∀ n s, r.subscriber? n = some s → s.id = sessionName n ∧ s.depth = depth

/-- `r'` is `r` with each open session's subscriber changed as `f` says -/
structure Changes (f : Nat → Subscriber → Subscriber) (r r' : Registry) : Prop where
  entries : r'.entries = r.entries
  length : r'.subscribers.length = r.subscribers.length
  subscriber : ∀ n, r'.subscriber? n = (r.subscriber? n).map (f n)

variable {depth : Nat} {f g : Nat → Subscriber → Subscriber} {r r' r'' : Registry}

theorem subscriber?_put (r : Registry) (ref : Nat) (s : Subscriber) (n : Nat) :
    (r.put ref s).subscriber? n = (r.subscriber? n).map fun old => if n = ref then s else old := by
  unfold subscriber? put
  rw [List.getElem?_modify]
  by_cases h : ref = n
  · subst h
    cases r.subscribers[ref]? <;> simp
  · have h' : n ≠ ref := fun e => h e.symm
    cases r.subscribers[n]? <;> simp [h, h']

theorem changes_put {ref : Nat} {s : Subscriber} (h : r.subscriber? ref = some s) (f : Subscriber → Subscriber) :
    Changes (fun n old => if n = ref then f old else old) r (r.put ref (f s)) where
  entries := rfl
  length := List.length_modify ..
  subscriber n := by
    rw [subscriber?_put]
    by_cases hn : n = ref
    · subst hn
      simp [h]
    · simp [hn]

theorem changes_offer (e : Event) (report : PublishReport) (r : Registry) (ref : Nat) :
    Changes (fun n s => if n = ref then s.offered e else s) r (offer e report r ref).2 := by
  cases hs : r.subscriber? ref with
  | none =>
    simp only [offer, hs]
    refine ⟨rfl, rfl, fun n => ?_⟩
    by_cases hn : n = ref
    · subst hn
      simp [hs]
    · simp [hn]
  | some s =>
    have hput := changes_put hs (Subscriber.offered e)
    by_cases hw : s.wants e.payload
    · simp only [offer, hs, hw, if_true]
      have hoff : s.offered e = (s.enqueue e).2 := if_pos hw
      rw [hoff] at hput
      cases hq : s.enqueue e with
      | mk answer s' =>
        rw [hq] at hput
        cases answer <;> exact hput
    · simp only [offer, hs, hw]
      refine ⟨rfl, rfl, fun n => ?_⟩
      by_cases hn : n = ref
      · subst hn
        simp [hs, Subscriber.offered, hw]
      · simp [hn]

theorem Changes.trans (h : Changes f r r') (h' : Changes g r' r'') : Changes (fun n s => g n (f n s)) r r'' where
  entries := h'.entries.trans h.entries
  length := h'.length.trans h.length
  subscriber n := by
    rw [h'.subscriber, h.subscriber, Option.map_map]
    rfl

/-- each subscriber is served as often as it is in the list -/
theorem changes_foldl_offer (e : Event) (refs : List Nat) (report : PublishReport) (r : Registry) :
    Changes (fun n => (Subscriber.offered e)^[refs.count n]) r
      (refs.foldl (fun (report, r) ref => offer e report r ref) (report, r)).2 := by
  induction refs generalizing report r with
  | nil => exact ⟨rfl, rfl, fun n => by simp⟩
  | cons ref refs ih =>
    have hall := (changes_offer e report r ref).trans (ih (offer e report r ref).1 (offer e report r ref).2)
    refine ⟨hall.entries, hall.length, fun n => (hall.subscriber n).trans ?_⟩
    congr 1
    funext s
    by_cases hn : n = ref
    · subst hn
      simp only [if_true, List.count_cons_self, Function.iterate_succ_apply]
    · simp only [if_neg hn, List.count_cons_of_ne fun h => hn h.symm]

/-- a publication drops the dead entries -/
theorem entries_publish (r : Registry) (e : Event) : (r.publish e).2.entries = r.entries.filter r.isLive :=
  (changes_foldl_offer e.stampProduced _ {} { r with entries := r.entries.filter r.isLive }).entries

theorem length_publish (r : Registry) (e : Event) : (r.publish e).2.subscribers.length = r.subscribers.length :=
  (changes_foldl_offer e.stampProduced _ {} { r with entries := r.entries.filter r.isLive }).length

/-- a publication serves each subscriber as often as it is registered, and nobody else -/
theorem subscriber?_publish (r : Registry) (e : Event) (n : Nat) :
    (r.publish e).2.subscriber? n =
      (r.subscriber? n).map (Subscriber.offered e.stampProduced)^[r.entries.count n] := by
  refine ((changes_foldl_offer e.stampProduced _ {} { r with entries := r.entries.filter r.isLive }).subscriber n).trans
    ?_
  change (r.subscriber? n).map _ = _
  cases hs : r.subscriber? n with
  | none => rfl
  | some s =>
    have hlive : r.isLive n = true := by simp [isLive, hs]
    rw [List.count_filter hlive]

theorem Enrolled.of_changes (h : Enrolled depth r) (c : Changes f r r')
    (hf : ∀ n s, (f n s).id = s.id ∧ (f n s).depth = s.depth) : Enrolled depth r' where
  nodup := c.entries ▸ h.nodup
  mem_entries n := by
    rw [c.entries, h.mem_entries, c.subscriber, Option.isSome_map]
  named n s hs := by
    rw [c.subscriber] at hs
    obtain ⟨t, ht, rfl⟩ := Option.map_eq_some_iff.1 hs
    obtain ⟨hid, hdepth⟩ := h.named n t ht
    exact ⟨(hf n t).1.trans hid, (hf n t).2.trans hdepth⟩

theorem Enrolled.changes_publish (h : Enrolled depth r) (e : Event) :
    Changes (fun _ s => s.offered e.stampProduced) r (r.publish e).2 where
  entries := (r.entries_publish e).trans (List.filter_eq_self.2 fun n hn => (h.mem_entries n).1 hn)
  length := r.length_publish e
  subscriber n := by
    rw [subscriber?_publish]
    cases hs : r.subscriber? n with
    | none => rfl
    | some s =>
      have hmem : n ∈ r.entries := (h.mem_entries n).2 (by rw [hs]; rfl)
      rw [List.count_eq_one_of_mem h.nodup hmem]
      rfl

/-! ## What the sessions are told -/

/-- `r'` is what publications left of `r`: the same sessions are open, and each has been told of these transfers -/
structure Tells (depth : Nat) (told : Nat → List Payload) (r r' : Registry) : Prop where
  enrolled : r'.Enrolled depth
  length : r'.subscribers.length = r.subscribers.length
  isSome : ∀ n, (r'.subscriber? n).isSome = (r.subscriber? n).isSome
  dones : ∀ n, dones (r'.waiting n) = dones (r.waiting n) ++ told n

abbrev TellsNone (depth : Nat) (r r' : Registry) : Prop := Tells depth (fun _ => []) r r'

namespace Tells

variable {told told' : Nat → List Payload}

theorem refl (h : r.Enrolled depth) : TellsNone depth r r := ⟨h, rfl, fun _ => rfl, fun _ => (List.append_nil _).symm⟩

theorem trans (h : Tells depth told r r') (h' : Tells depth told' r' r'') :
    Tells depth (fun n => told n ++ told' n) r r'' where
  enrolled := h'.enrolled
  length := h'.length.trans h.length
  isSome n := (h'.isSome n).trans (h.isSome n)
  dones n := by rw [h'.dones, h.dones, List.append_assoc]

theorem of_changes (h : r.Enrolled depth) (c : Changes f r r')
    (hf : ∀ n s, (f n s).id = s.id ∧ (f n s).depth = s.depth)
    (hdones : ∀ n s, r.subscriber? n = some s → BoardDriver.dones (f n s).queue = BoardDriver.dones s.queue ++ told n)
    (hnone : ∀ n, r.subscriber? n = none → told n = []) : Tells depth told r r' where
  enrolled := h.of_changes c hf
  length := c.length
  isSome n := by rw [c.subscriber, Option.isSome_map]
  dones n := by
    unfold waiting
    rw [c.subscriber]
    cases hs : r.subscriber? n with
    | none => exact (hnone n hs).symm
    | some s => exact hdones n s hs

end Tells

/-- **A publication goes to each open session on its own account.** The end of a transfer is told to the session whose
cookie it carries, if the session asked for such events and its queue has room; any other event tells nobody of one. -/
theorem Enrolled.publish (h : r.Enrolled depth) (e : Event) :
    Tells depth (fun n => (dones [e]).filter fun p => p.cookie? = some (sessionName n) ∧ r.receives depth n) r
      (r.publish e).2 := by
  refine .of_changes h (h.changes_publish e) (fun n s => ?_) (fun n s hs => ?_) fun n hs => ?_
  · simp [Subscriber.offered_eq]
  · rw [Subscriber.dones_offered]
    congr 1
    obtain ⟨payload, produced, delivered⟩ := e
    cases payload with
    | dmaDone ticket elapsed cookie =>
      have hfits : (s.wants (.dmaDone ticket elapsed cookie) ∧ s.hasRoom) ↔
          cookie = sessionName n ∧ r.receives depth n := by
        obtain ⟨hid, hdepth⟩ := h.named n s hs
        rw [Subscriber.wants_dmaDone_iff, Subscriber.hasRoom, hid, hdepth]
        simp only [receives, hs, Option.any_some, Bool.and_eq_true, bne_iff_ne]
        exact and_right_comm.trans and_comm
      by_cases hyes : cookie = sessionName n ∧ r.receives depth n
      · refine (if_pos (hfits.2 hyes)).trans ?_
        simp [Event.stampProduced, dones, Payload.kind, Payload.cookie?, hyes]
      · refine (if_neg (mt hfits.1 hyes)).trans ?_
        simp [dones, Payload.kind, Payload.cookie?, hyes]
    | _ => simp [Event.stampProduced, dones, Payload.kind]
  · simp [receives, hs]

/-- publications that are about something else -/
theorem Enrolled.publishAll (h : r.Enrolled depth) {events : List Event}
    (hplain : ∀ e ∈ events, e.payload.kind ≠ .dmaDone) : TellsNone depth r (r.publishAll events) := by
  induction events generalizing r with
  | nil => exact .refl h
  | cons e events ih =>
    have first : TellsNone depth r (r.publish e).2 := by
      have hpublish := h.publish e
      rw [dones_of_plain (hplain e List.mem_cons_self)] at hpublish
      exact hpublish
    exact first.trans (ih first.enrolled fun e he => hplain e (List.mem_cons_of_mem _ he))

/-! ## Sessions that come and go -/

theorem subscriber?_eq_none_of_le {n : Nat} (h : r.subscribers.length ≤ n) : r.subscriber? n = none := by
  simp [subscriber?, List.getElem?_eq_none h]

theorem lt_length_of_subscriber? {n : Nat} {s : Subscriber} (h : r.subscriber? n = some s) :
    n < r.subscribers.length := by
  by_contra hge
  rw [subscriber?_eq_none_of_le (Nat.le_of_not_lt hge)] at h
  cases h

/-- a new subscriber takes the next reference -/
theorem subscriber?_add (r : Registry) (s : Subscriber) (n : Nat) :
    (r.add s).2.subscriber? n = if n = r.subscribers.length then some s else r.subscriber? n := by
  change ((r.subscribers ++ [some s])[n]?).join = _
  rw [List.getElem?_append]
  by_cases hlt : n < r.subscribers.length
  · rw [if_pos hlt, if_neg (Nat.ne_of_lt hlt)]
    rfl
  · rw [if_neg hlt]
    by_cases heq : n = r.subscribers.length
    · simp [heq]
    · have hgt : [some s].length ≤ n - r.subscribers.length := by
        rw [List.length_singleton]
        omega
      rw [if_neg heq, List.getElem?_eq_none hgt, subscriber?_eq_none_of_le (Nat.le_of_not_lt hlt)]
      rfl

/-- a session that is opened gets the next number -/
theorem Enrolled.opened (h : Enrolled depth r) :
    let r' := (r.add (.fresh (sessionName r.subscribers.length) depth)).2.register r.subscribers.length
    Enrolled depth r' ∧ r'.subscribers.length = r.subscribers.length + 1 ∧
      ∀ n, r'.subscriber? n =
        if n = r.subscribers.length then some (.fresh (sessionName n) depth) else r.subscriber? n := by
  intro r'
  have hnone : r.subscriber? r.subscribers.length = none := subscriber?_eq_none_of_le (Nat.le_refl _)
  have hsub : ∀ n, r'.subscriber? n =
      if n = r.subscribers.length then some (.fresh (sessionName n) depth) else r.subscriber? n := by
    intro n
    refine (r.subscriber?_add (.fresh (sessionName r.subscribers.length) depth) n).trans ?_
    by_cases heq : n = r.subscribers.length
    · rw [if_pos heq, if_pos heq, heq]
    · rw [if_neg heq, if_neg heq]
  refine ⟨⟨?_, fun n => ?_, fun n s hs => ?_⟩, by simp [r', add, register], hsub⟩
  · have hnew : r.subscribers.length ∉ r.entries := by simp [h.mem_entries, hnone]
    exact List.nodup_append_comm.1 (List.nodup_cons.2 ⟨hnew, h.nodup⟩)
  · rw [hsub]
    change n ∈ r.entries ++ [r.subscribers.length] ↔ _
    rw [List.mem_append, h.mem_entries, List.mem_singleton]
    by_cases heq : n = r.subscribers.length <;> simp [heq]
  · rw [hsub] at hs
    by_cases heq : n = r.subscribers.length
    · rw [if_pos heq] at hs
      cases hs
      exact ⟨rfl, rfl⟩
    · rw [if_neg heq] at hs
      exact h.named n s hs

theorem subscriber?_forget (r : Registry) (ref n : Nat) :
    (r.forget ref).subscriber? n = if n = ref then none else r.subscriber? n := by
  unfold subscriber? forget
  rw [List.getElem?_set]
  by_cases heq : ref = n
  · subst heq
    by_cases hlt : ref < r.subscribers.length <;> simp [hlt]
  · rw [if_neg heq, if_neg fun e => heq e.symm]

/-- an id tells the open sessions apart, as long as there are no more numbers than ids -/
theorem Enrolled.id_eq_iff (h : r.Enrolled depth) (hlen : r.subscribers.length ≤ 2 ^ 64) {m n : Nat} {s t : Subscriber}
    (hs : r.subscriber? m = some s) (ht : r.subscriber? n = some t) : t.id = s.id ↔ n = m := by
  have hm := lt_length_of_subscriber? hs
  have hn := lt_length_of_subscriber? ht
  rw [(h.named m s hs).1, (h.named n t ht).1]
  constructor
  · exact sessionName_injOn (by omega) (by omega)
  · rintro rfl
    rfl

/-- a session that is closed takes its own entry with it; the bound is on the numbers that an id can tell apart -/
theorem Enrolled.closed (h : Enrolled depth r) (hlen : r.subscribers.length ≤ 2 ^ 64) {number : Nat} {s : Subscriber}
    (hs : r.subscriber? number = some s) :
    let r' := (r.unregister s.id).2.forget number
    Enrolled depth r' ∧ r'.subscribers.length = r.subscribers.length ∧
      ∀ n, r'.subscriber? n = if n = number then none else r.subscriber? n := by
  intro r'
  have hsub : ∀ n, r'.subscriber? n = if n = number then none else r.subscriber? n :=
    subscriber?_forget (r.unregister s.id).2 number
  refine ⟨⟨h.nodup.filter _, fun n => ?_, fun n t ht => ?_⟩, by simp [r', forget, unregister], hsub⟩
  · rw [hsub]
    change n ∈ r.entries.filter _ ↔ _
    rw [List.mem_filter, h.mem_entries]
    cases ht : r.subscriber? n with
    | none => simp
    | some t =>
      have hname := h.id_eq_iff hlen hs ht
      by_cases heq : n = number <;> simp [hname, heq]
  · rw [hsub] at ht
    by_cases heq : n = number
    · rw [if_pos heq] at ht
      cases ht
    · rw [if_neg heq] at ht
      exact h.named n t ht

/-! ## What the sessions take -/

/-- `r'` is what a command leaves of `r` that publishes nothing: so many sessions more, and these events out of the
queues -/
structure Yields (depth opened : Nat) (left : Nat → List Event) (r r' : Registry) : Prop where
  enrolled : r'.Enrolled depth
  length : r'.subscribers.length = r.subscribers.length + opened
  staysClosed : ∀ n, n < r.subscribers.length → r.subscriber? n = none → r'.subscriber? n = none
  dones : ∀ n, dones (left n ++ r'.waiting n) = dones (r.waiting n)

namespace Yields

theorem of_tellsNone (h : TellsNone depth r r') : Yields depth 0 (fun _ => []) r r' where
  enrolled := h.enrolled
  length := h.length
  staysClosed n _ hn := by
    rw [← Option.isNone_iff_eq_none, ← Option.not_isSome, h.isSome, hn]
    decide
  dones n := (h.dones n).trans (List.append_nil _)

/-- a session that takes events out of its own queue, or changes its masks -/
theorem put (h : r.Enrolled depth) {number : Nat} {s : Subscriber} (hs : r.subscriber? number = some s)
    (f : Subscriber → Subscriber) (hf : ∀ s, (f s).id = s.id ∧ (f s).depth = s.depth) (left : List Event)
    (hleft : BoardDriver.dones (left ++ (f s).queue) = BoardDriver.dones s.queue) :
    Yields depth 0 (fun n => if number = n then left else []) r (r.put number (f s)) := by
  have c := changes_put hs f
  refine ⟨h.of_changes c fun n t => ?_, c.length, fun n _ hn => ?_, fun n => ?_⟩
  · by_cases heq : n = number
    · simp only [if_pos heq]
      exact hf t
    · simp [heq]
  · rw [c.subscriber, hn]
    rfl
  · unfold waiting
    rw [c.subscriber]
    by_cases heq : number = n
    · subst heq
      simpa [hs] using hleft
    · have heq' : ¬ n = number := fun e => heq e.symm
      simp [heq, heq']

theorem opened (h : r.Enrolled depth) :
    Yields depth 1 (fun _ => []) r
      ((r.add (.fresh (sessionName r.subscribers.length) depth)).2.register r.subscribers.length) := by
  obtain ⟨henrolled, hlength, hsub⟩ := h.opened
  refine ⟨henrolled, hlength, fun n hlt hn => ?_, fun n => ?_⟩
  · rw [hsub, if_neg (Nat.ne_of_lt hlt), hn]
  · unfold waiting
    rw [hsub]
    by_cases heq : n = r.subscribers.length
    · subst heq
      simp [subscriber?_eq_none_of_le, Subscriber.fresh]
    · simp [heq]

theorem closed (h : r.Enrolled depth) (hlen : r.subscribers.length ≤ 2 ^ 64) {number : Nat} {s : Subscriber}
    (hs : r.subscriber? number = some s) :
    Yields depth 0 (fun n => if number = n then r.waiting number else []) r ((r.unregister s.id).2.forget number) := by
  obtain ⟨henrolled, hlength, hsub⟩ := h.closed hlen hs
  refine ⟨henrolled, hlength, fun n _ hn => ?_, fun n => ?_⟩
  · rw [hsub, hn]
    exact ite_self _
  · unfold waiting
    rw [hsub]
    by_cases heq : number = n
    · subst heq
      simp
    · have heq' : ¬ n = number := fun e => heq e.symm
      simp [heq, heq']

end Yields

end Registry

/-! ## The worker -/

namespace Dispatcher

/-- the worker has nothing to do, and there is a place for an event -/
structure Idle (d : Dispatcher) : Prop where
  pool : 0 < d.pool
  holding : d.holding = none
  queue : d.queue = []

/-- a worker with nothing to do publishes an event at once; one that pauses leaves it where it is -/
theorem Idle.dispatch {d : Dispatcher} (h : d.Idle) (e : Event) (r : Registry) :
    (d.dispatch e r).2 =
      if d.pace = .paused then ({ d with queue := [.publish e] }, r)
      else ({ d with pace := if d.pace = .pausing then .paused else d.pace }, (r.publish e).2) := by
  obtain ⟨pool, queue, holding, lost, pace⟩ := d
  obtain ⟨hpool, hholding, hqueue⟩ := h
  cases hholding
  cases hqueue
  cases pace <;> simp_all [Dispatcher.dispatch, accept, offer, settle, workOff, take, finish]

theorem Idle.hold {d : Dispatcher} (h : d.Idle) : d.hold.Idle := by
  unfold Dispatcher.hold
  split
  · exact ⟨h.pool, h.holding, h.queue⟩
  · exact h

/-- a worker that is let go on with nothing to do does nothing -/
theorem Idle.release {d : Dispatcher} (h : d.Idle) (r : Registry) : d.release r = ({ d with pace := .running }, r) := by
  obtain ⟨pool, queue, holding, lost, pace⟩ := d
  obtain ⟨hpool, hholding, hqueue⟩ := h
  cases hholding
  cases hqueue
  simp [Dispatcher.release, settle, workOff, take, finish]

/-- the worker pauses while something waits -/
structure Behind (d : Dispatcher) : Prop where
  pace : d.pace = .paused
  queue : d.queue ≠ []

theorem Behind.dispatch {d : Dispatcher} (h : d.Behind) (e : Event) (r : Registry) : (d.dispatch e r).2.1.Behind := by
  obtain ⟨pool, queue, holding, lost, pace⟩ := d
  obtain ⟨hpace, hqueue⟩ := h
  cases hpace
  by_cases hroom : queue.length < pool
  · simp only [Dispatcher.dispatch, accept, offer, hroom, if_true, settle, workOff]
    exact ⟨rfl, by simp⟩
  · simp only [Dispatcher.dispatch, accept, offer, hroom, if_false, settle, workOff, if_true]
    exact ⟨rfl, hqueue⟩

end Dispatcher
end BoardDriver
