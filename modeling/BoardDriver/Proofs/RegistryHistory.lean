/-
Histories of a registry, and what its list of entries tells.

Many hands use one registry. Owners make subscribers, register them, use them and let go of them, with or without a word
to the registry; whoever has an event publishes it. The list of entries therefore holds the dead beside the living until
somebody publishes or unregisters.

- `Registry.step`, `Registry.run`: the registry after one use, and after a history of them;
- `dead_run_iff`: there is a dead entry just when somebody registered has been let go of since the last pruning;
- `unregister_answer`: when the answer of `unregister` is true, when it is right, and what is left of the list;
- `unregister_stranger`: an id that was never registered is reported as removed.
-/
import Mathlib.Data.List.Induction
import Mathlib.Tactic.Tauto
import BoardDriver.Proofs.Delivery

namespace BoardDriver

namespace Subscriber

/-- what an owner does with its subscriber -/
inductive Op where
  | setEnableMask (mask : UInt32)
  | setIrqMask (mask : UInt32)
  | enqueue (e : Event)
  | dequeue
  | clear
  deriving DecidableEq, Repr

def serve (s : Subscriber) : Op → Subscriber
  | .setEnableMask mask => { s with enableMask := mask }
  | .setIrqMask mask => { s with irqMask := mask }
  | .enqueue e => (s.enqueue e).2
  | .dequeue => s.dequeue.2
  | .clear => s.clear.2

@[simp] theorem serve_id (s : Subscriber) (op : Op) : (s.serve op).id = s.id := by
  cases op with
  | enqueue e =>
    simp only [serve, Subscriber.enqueue]
    split <;> rfl
  | dequeue =>
    simp only [serve, Subscriber.dequeue]
    split <;> rfl
  | setEnableMask mask | setIrqMask mask | clear => rfl

@[simp] theorem serve_depth (s : Subscriber) (op : Op) : (s.serve op).depth = s.depth := by
  cases op with
  | enqueue e =>
    simp only [serve, Subscriber.enqueue]
    split <;> rfl
  | dequeue =>
    simp only [serve, Subscriber.dequeue]
    split <;> rfl
  | setEnableMask mask | setIrqMask mask | clear => rfl

@[simp] theorem offered_id (e : Event) (s : Subscriber) : (s.offered e).id = s.id := by rw [offered_eq]

@[simp] theorem offered_depth (e : Event) (s : Subscriber) : (s.offered e).depth = s.depth := by rw [offered_eq]

end Subscriber

namespace Registry

/-- one use of a registry -/
inductive Op where
  /-- somebody makes a subscriber; it gets the next reference -/
  | add (id : Cookie) (depth : Nat)
  /-- its owner registers it, once more if it is registered already -/
  | register (ref : Nat)
  | unregister (id : Cookie)
  /-- its owner lets go of it without a word -/
  | forget (ref : Nat)
  | publish (e : Event)
  /-- its owner uses it -/
  | use (ref : Nat) (op : Subscriber.Op)
  deriving DecidableEq, Repr

/-- the registry after one use; nobody can register or use a subscriber that is gone -/
def step (r : Registry) : Op → Registry
  | .add id depth => (r.add (.fresh id depth)).2
  | .register ref => if r.isLive ref then r.register ref else r
  | .unregister id => (r.unregister id).2
  | .forget ref => r.forget ref
  | .publish e => (r.publish e).2
  | .use ref op =>
    match r.subscriber? ref with
    | some s => r.put ref (s.serve op)
    | none => r

def run (r : Registry) (history : List Op) : Registry := history.foldl step r

@[simp] theorem run_nil (r : Registry) : r.run [] = r := rfl

@[simp] theorem run_cons (r : Registry) (op : Op) (history : List Op) :
    r.run (op :: history) = (r.step op).run history := rfl

@[simp] theorem run_append (r : Registry) (history later : List Op) :
    r.run (history ++ later) = (r.run history).run later := List.foldl_append ..

def live (r : Registry) : List Nat := r.entries.filter r.isLive

/-- a live subscriber with an id is registered -/
def Registers (r : Registry) (id : Cookie) : Prop :=
  ∃ ref ∈ r.entries, (r.subscriber? ref).map Subscriber.id = some id

instance (r : Registry) (id : Cookie) : Decidable (r.Registers id) :=
  inferInstanceAs (Decidable (∃ ref ∈ r.entries, _))

variable {r : Registry}

theorem isLive_iff (ref : Nat) : r.isLive ref = true ↔ ∃ s, r.subscriber? ref = some s := Option.isSome_iff_exists

/-! ## One use -/

/-- what an owner does with its subscriber is all that a use of it does -/
theorem subscriber?_use (r : Registry) (ref : Nat) (op : Subscriber.Op) (n : Nat) :
    (r.step (.use ref op)).subscriber? n =
      (r.subscriber? n).map fun s => if n = ref then s.serve op else s := by
  cases hs : r.subscriber? ref with
  | none =>
    simp only [step, hs]
    by_cases hn : n = ref
    · simp [hn, hs]
    · simp [hn]
  | some s =>
    simp only [step, hs]
    exact (changes_put hs fun s => s.serve op).subscriber n

/-- only `register`, `unregister` and `publish` touch the list -/
theorem entries_use (r : Registry) (ref : Nat) (op : Subscriber.Op) : (r.step (.use ref op)).entries = r.entries := by
  simp only [step]
  split <;> rfl

/-- a subscriber lives until it is let go of; a new one takes a reference that nobody had -/
theorem isLive_step (r : Registry) (op : Op) (n : Nat) :
    (r.step op).isLive n =
      match op with
      | .add .. => decide (n = r.subscribers.length) || r.isLive n
      | .forget ref => decide (n ≠ ref) && r.isLive n
      | _ => r.isLive n := by
  cases op with
  | add id depth =>
    simp only [step, isLive, subscriber?_add]
    by_cases hn : n = r.subscribers.length <;> simp [hn]
  | register ref =>
    simp only [step]
    split <;> rfl
  | unregister id => rfl
  | forget ref =>
    simp only [step, isLive, subscriber?_forget]
    by_cases hn : n = ref <;> simp [hn]
  | publish e => simp only [step, isLive, subscriber?_publish, Option.isSome_map]
  | use ref op => simp only [isLive, subscriber?_use, Option.isSome_map]

/-! ## Dead entries -/

/-- an entry refers to a subscriber that is gone -/
def Dead (r : Registry) : Prop := ∃ ref ∈ r.entries, r.isLive ref = false

/-- whether a use drops the dead entries -/
def Op.prunes : Op → Bool
  | .publish _ | .unregister _ => true
  | _ => false

/-- somebody registered has been let go of, and nobody has published or unregistered since -/
def Lapsed (history : List Op) : Prop :=
  ∃ before ref after, history = before ++ .forget ref :: after ∧ ref ∈ (run {} before).live ∧
    ∀ op ∈ after, op.prunes = false

/-- every entry refers to a subscriber that was made -/
theorem lt_length_of_mem_entries (history : List Op) :
    ∀ ref ∈ (run {} history).entries, ref < (run {} history).subscribers.length := by
  induction history using List.reverseRecOn with
  | nil => exact fun _ h => absurd h List.not_mem_nil
  | append_singleton history op ih =>
    rw [run_append]
    generalize run {} history = r at ih ⊢
    intro ref href
    cases op with
    | add id depth =>
      have hlength : (r.step (.add id depth)).subscribers.length = r.subscribers.length + 1 := List.length_append
      exact hlength ▸ Nat.lt_succ_of_lt (ih ref href)
    | register new =>
      by_cases hnew : r.isLive new
      · obtain ⟨s, hs⟩ := (isLive_iff new).1 hnew
        simp only [run_cons, run_nil, step, hnew, if_true] at href ⊢
        rcases List.mem_append.1 href with href | href
        · exact ih ref href
        · rw [List.mem_singleton.1 href]
          exact lt_length_of_subscriber? hs
      · simp only [run_cons, run_nil, step, hnew] at href ⊢
        exact ih ref href
    | unregister id => exact ih ref (List.mem_of_mem_filter href)
    | forget gone =>
      have hlength : (r.step (.forget gone)).subscribers.length = r.subscribers.length := List.length_set
      exact hlength ▸ ih ref href
    | publish e =>
      simp only [run_cons, run_nil, step, entries_publish] at href
      exact (r.length_publish e).symm ▸ ih ref (List.mem_of_mem_filter href)
    | use used op =>
      rw [run_cons, run_nil, entries_use] at href
      have hlength : (r.step (.use used op)).subscribers.length = r.subscribers.length := by
        simp only [step]
        split
        · exact List.length_modify ..
        · rfl
      exact hlength ▸ ih ref href

theorem not_dead_of_live_entries (h : ∀ ref ∈ r.entries, r.isLive ref = true) : ¬ r.Dead := by
  rintro ⟨ref, href, hdead⟩
  rw [h ref href] at hdead
  cases hdead

/-- an entry dies when its subscriber is let go of, and stays until the next pruning -/
theorem dead_step_iff (hknown : ∀ ref ∈ r.entries, ref < r.subscribers.length) (op : Op) :
    (r.step op).Dead ↔ (∃ ref ∈ r.live, op = .forget ref) ∨ op.prunes = false ∧ r.Dead := by
  cases op with
  | add id depth =>
    have hlive : ∀ ref ∈ r.entries, (r.step (.add id depth)).isLive ref = r.isLive ref := by
      intro ref href
      simp [isLive_step, Nat.ne_of_lt (hknown ref href)]
    have hdead : (r.step (.add id depth)).Dead ↔ r.Dead := by
      refine exists_congr fun ref => and_congr_right fun href => ?_
      rw [hlive ref href]
    simp [hdead, Op.prunes]
  | register ref =>
    have hdead : (r.step (.register ref)).Dead ↔ r.Dead := by
      simp only [step]
      by_cases hlive : r.isLive ref
      · rw [if_pos hlive]
        constructor
        · rintro ⟨old, hold, hgone⟩
          rcases List.mem_append.1 hold with hold | hold
          · exact ⟨old, hold, hgone⟩
          · rw [List.mem_singleton.1 hold] at hgone
            exact absurd (hlive.symm.trans hgone) (by decide)
        · rintro ⟨old, hold, hgone⟩
          exact ⟨old, List.mem_append_left _ hold, hgone⟩
      · rw [if_neg hlive]
    simp [hdead, Op.prunes]
  | unregister id =>
    have hnone : ¬ (r.step (.unregister id)).Dead := by
      apply not_dead_of_live_entries
      intro ref href
      obtain ⟨s, hs, -⟩ := (Option.any_eq_true _ _).1 (List.mem_filter.1 href).2
      exact (isLive_iff ref).2 ⟨s, hs⟩
    simp [hnone, Op.prunes]
  | forget ref =>
    constructor
    · rintro ⟨old, hold, hgone⟩
      by_cases hlive : r.isLive old
      · have heq : old = ref := by
          by_contra hne
          rw [isLive_step] at hgone
          simp [hne, hlive] at hgone
        exact .inl ⟨ref, List.mem_filter.2 (heq ▸ ⟨hold, hlive⟩), rfl⟩
      · exact .inr ⟨rfl, old, hold, Bool.eq_false_iff.2 hlive⟩
    · rintro (⟨gone, hgone, heq⟩ | ⟨-, old, hold, hgone⟩)
      · cases heq
        exact ⟨ref, List.mem_of_mem_filter hgone, by simp [isLive_step]⟩
      · exact ⟨old, hold, by simp [isLive_step, hgone]⟩
  | publish e =>
    have hnone : ¬ (r.step (.publish e)).Dead := by
      apply not_dead_of_live_entries
      intro ref href
      have hmem : ref ∈ r.entries.filter r.isLive := (r.entries_publish e) ▸ href
      exact (r.isLive_step (.publish e) ref).trans (List.mem_filter.1 hmem).2
    simp [hnone, Op.prunes]
  | use ref op =>
    have hdead : (r.step (.use ref op)).Dead ↔ r.Dead := by
      unfold Dead
      simp only [entries_use, isLive_step]
    simp [hdead, Op.prunes]

theorem lapsed_snoc_iff (history : List Op) (op : Op) :
    Lapsed (history ++ [op]) ↔
      (∃ ref ∈ (run {} history).live, op = .forget ref) ∨ op.prunes = false ∧ Lapsed history := by
  constructor
  · rintro ⟨before, ref, after, heq, hlive, hafter⟩
    induction after using List.reverseRecOn with
    | nil =>
      obtain ⟨rfl, hop⟩ := List.append_inj' heq rfl
      exact .inl ⟨ref, hlive, List.singleton_inj.1 hop⟩
    | append_singleton after last =>
      rw [← List.cons_append, ← List.append_assoc] at heq
      obtain ⟨rfl, hop⟩ := List.append_inj' heq rfl
      cases hop
      exact .inr ⟨hafter _ (by simp), before, ref, after, rfl, hlive,
        fun op hop => hafter op (List.mem_append_left _ hop)⟩
  · rintro (⟨ref, hlive, rfl⟩ | ⟨hop, before, ref, after, rfl, hlive, hafter⟩)
    · exact ⟨history, ref, [], rfl, hlive, by simp⟩
    · refine ⟨before, ref, after ++ [op], by simp, hlive, ?_⟩
      intro op' hop'
      rcases List.mem_append.1 hop' with hop' | hop'
      · exact hafter op' hop'
      · rw [List.mem_singleton.1 hop']
        exact hop

/-- there is a dead entry just when somebody registered has been let go of since the last pruning -/
theorem dead_run_iff (history : List Op) : (run {} history).Dead ↔ Lapsed history := by
  induction history using List.reverseRecOn with
  | nil =>
    constructor
    · rintro ⟨ref, href, -⟩
      cases href
    · rintro ⟨before, ref, after, heq, -⟩
      simp at heq
  | append_singleton history op ih =>
    rw [run_append, run_cons, run_nil, dead_step_iff (lt_length_of_mem_entries history), lapsed_snoc_iff, ih]

/-! ## What `unregister` answers -/

/-- the answer is true if an entry was dropped, whatever it was dropped for -/
theorem unregister_eq_true_iff (r : Registry) (id : Cookie) :
    (r.unregister id).1 = true ↔ r.Registers id ∨ r.Dead := by
  unfold unregister
  rw [decide_eq_true_iff, List.length_filter_lt_length_iff_exists]
  constructor
  · rintro ⟨ref, href, hdropped⟩
    cases hs : r.subscriber? ref with
    | none => exact .inr ⟨ref, href, by simp [isLive, hs]⟩
    | some s => exact .inl ⟨ref, href, by simpa [hs] using hdropped⟩
  · rintro (⟨ref, href, hid⟩ | ⟨ref, href, hdead⟩)
    · obtain ⟨s, hs, rfl⟩ := Option.map_eq_some_iff.1 hid
      exact ⟨ref, href, by simp [hs]⟩
    · exact ⟨ref, href, by simp [Option.not_isSome_iff_eq_none.1 (Bool.eq_false_iff.1 hdead)]⟩

/-- the entries left are the live ones with other ids -/
theorem entries_unregister (r : Registry) (id : Cookie) :
    (r.unregister id).2.entries = r.live.filter fun ref => (r.subscriber? ref).map Subscriber.id ≠ some id := by
  unfold live
  rw [List.filter_filter]
  apply List.filter_congr
  intro ref _
  cases hs : r.subscriber? ref <;> simp [isLive, hs, bne, Bool.beq_eq_decide_eq]

/-- **When `unregister` tells the truth.** After any history the answer is true if a live subscriber with the id was
registered, and also if anybody who was registered has been let go of since the last pruning. So it is right just if the
first is the case or the second is not. Whatever the answer is, nobody with the id is registered afterwards; every other
live subscriber still is, in the same order and as often as before, and no subscriber is changed. -/
theorem unregister_answer (history : List Op) (id : Cookie) :
    let r := run {} history
    let left := (r.unregister id).2
    ((r.unregister id).1 = true ↔ r.Registers id ∨ Lapsed history) ∧
    (((r.unregister id).1 = true ↔ r.Registers id) ↔ r.Registers id ∨ ¬ Lapsed history) ∧
    ¬ left.Registers id ∧
    left.live = r.live.filter (fun ref => (r.subscriber? ref).map Subscriber.id ≠ some id) ∧
    left.subscribers = r.subscribers := by
  intro r left
  have hanswer : (r.unregister id).1 = true ↔ r.Registers id ∨ Lapsed history := by
    rw [unregister_eq_true_iff, dead_run_iff]
  have hentries := r.entries_unregister id
  refine ⟨hanswer, by tauto, ?_, ?_, rfl⟩
  · rintro ⟨ref, href, hid⟩
    rw [hentries] at href
    exact of_decide_eq_true (List.mem_filter.1 href).2 hid
  · unfold live
    rw [hentries]
    apply List.filter_eq_self.2
    intro ref href
    exact (List.mem_filter.1 (List.mem_of_mem_filter href)).2

/-- nobody ever had the id 7, yet it is reported as removed because somebody else vanished; a publication in between
makes the answer right -/
theorem unregister_stranger :
    let history : List Op := [.add ⟨1⟩ 20, .register 0, .forget 0]
    ¬ (run {} history).Registers ⟨7⟩ ∧ ((run {} history).unregister ⟨7⟩).1 = true ∧
      ((run {} (history ++ [.publish (.ofPayload (.interrupt 1))])).unregister ⟨7⟩).1 = false := by
  decide

end Registry
end BoardDriver
