/-
Steps that are taken in order until one fails.

Each step is taken on what the ones before it have left. The first that fails is the last one taken, and its error is
the answer; if none fails, the answers are collected.

- `Succeed`: each of these steps succeeds, with these answers;
- `InOrder`: what comes of steps in order, said without taking them one by one;
- `inOrder_iff`: `collect` is the only thing that comes of them;
- `sequence_cases`: so it is for steps that answer with nothing.
-/
import BoardDriver.Register.Action

namespace BoardDriver.Action

variable {σ α : Type}

/-- the state that these steps leave, whether they succeed or not -/
def leave (xs : List (Action σ α)) (s : σ) : σ := xs.foldl (fun s x => (x s).state) s

/-- the events that these steps raise, whether they succeed or not -/
def raised : List (Action σ α) → σ → List Event
  | [], _ => []
  | x :: xs, s => (x s).events ++ raised xs (x s).state

/-- times that these steps take a lock, whether they succeed or not -/
def locking : List (Action σ α) → σ → Nat
  | [], _ => 0
  | x :: xs, s => (x s).locks + locking xs (x s).state

/-- each of these steps succeeds, with its answer, on what those before it have left -/
inductive Succeed : List (Action σ α) → σ → List α → Prop
  | nil (s : σ) : Succeed [] s []
  | cons {x : Action σ α} {xs : List (Action σ α)} {s : σ} {a : α} {as : List α} :
      (x s).result = .ok a → Succeed xs (x s).state as → Succeed (x :: xs) s (a :: as)

/-- what comes of steps in order: all of them succeed, or those before the one that fails -/
inductive InOrder (xs : List (Action σ α)) (s : σ) : Outcome σ (List α) → Prop
  | all {as : List α} : Succeed xs s as →
      InOrder xs s { result := .ok as, state := leave xs s, events := raised xs s, locks := locking xs s }
  | broken {done : List (Action σ α)} {x : Action σ α} {rest : List (Action σ α)} {as : List α} {e : Error} :
      xs = done ++ x :: rest → Succeed done s as → (x (leave done s)).result = .error e →
      InOrder xs s
        { result := .error e
          state := leave (done ++ [x]) s
          events := raised (done ++ [x]) s
          locks := locking (done ++ [x]) s }

/-- the steps in order, with their answers -/
def collect : List (Action σ α) → Action σ (List α)
  | [] => pure []
  | x :: rest => bind x fun a => bind (collect rest) fun as => pure (a :: as)

theorem leave_append (xs ys : List (Action σ α)) (s : σ) : leave (xs ++ ys) s = leave ys (leave xs s) :=
  List.foldl_append

namespace Succeed

variable {x : Action σ α} {xs ys : List (Action σ α)} {s : σ} {a : α} {as bs : List α}

theorem length_eq (h : Succeed xs s as) : as.length = xs.length := by
  induction h with
  | nil s => rfl
  | cons _ _ ih => rw [List.length_cons, List.length_cons, ih]

/-- the first of some steps that all succeed, and the rest -/
theorem split {cs : List α} (h : Succeed (xs ++ ys) s cs) :
    ∃ as bs, cs = as ++ bs ∧ Succeed xs s as ∧ Succeed ys (leave xs s) bs := by
  induction xs generalizing s cs with
  | nil => exact ⟨[], cs, rfl, .nil s, h⟩
  | cons x xs ih =>
    cases h with
    | cons ha hrest =>
      obtain ⟨as, bs, rfl, has, hbs⟩ := ih hrest
      exact ⟨_ :: as, bs, rfl, .cons ha has, hbs⟩

/-- the answer of one of them -/
theorem answer {done rest : List (Action σ α)} (h : Succeed (done ++ x :: rest) s as) :
    ∃ a, as[done.length]? = some a ∧ (x (leave done s)).result = .ok a := by
  obtain ⟨before, later, rfl, hdone, hrest⟩ := h.split
  cases hrest with
  | @cons _ _ _ a _ ha _ =>
    refine ⟨a, ?_, ha⟩
    rw [← hdone.length_eq, List.getElem?_append_right Nat.le.refl, Nat.sub_self, List.getElem?_cons_zero]

end Succeed

/-! ## One by one -/

variable {x : Action σ α} {xs done rest : List (Action σ α)} {s : σ} {as : List α} {e : Error}

/-- all of the steps succeed, or one of them fails after those before it have succeeded -/
theorem succeed_or_fails (xs : List (Action σ α)) (s : σ) :
    (∃ as, Succeed xs s as) ∨
      ∃ done x rest as e, xs = done ++ x :: rest ∧ Succeed done s as ∧ (x (leave done s)).result = .error e := by
  induction xs generalizing s with
  | nil => exact .inl ⟨[], .nil s⟩
  | cons x xs ih =>
    cases ha : (x s).result with
    | error e => exact .inr ⟨[], x, xs, [], e, rfl, .nil s, ha⟩
    | ok a =>
      rcases ih (x s).state with ⟨as, has⟩ | ⟨done, y, rest, as, e, rfl, has, hfails⟩
      · exact .inl ⟨a :: as, .cons ha has⟩
      · exact .inr ⟨x :: done, y, rest, a :: as, e, rfl, .cons ha has, hfails⟩

theorem collect_cons_of_ok {a : α} (ha : (x s).result = .ok a) :
    collect (x :: xs) s =
      { result := (collect xs (x s).state).result.map (a :: ·)
        state := (collect xs (x s).state).state
        events := (x s).events ++ (collect xs (x s).state).events
        locks := (x s).locks + (collect xs (x s).state).locks } := by
  rw [collect, bind_of_ok ha, bind_pure]

theorem collect_cons_of_error (hfails : (x s).result = .error e) :
    collect (x :: xs) s =
      { result := .error e, state := (x s).state, events := (x s).events, locks := (x s).locks } :=
  bind_of_error hfails

theorem collect_of_succeed (h : Succeed xs s as) :
    collect xs s = { result := .ok as, state := leave xs s, events := raised xs s, locks := locking xs s } := by
  induction h with
  | nil s => rfl
  | cons ha _ ih =>
    rw [collect_cons_of_ok ha, ih]
    rfl

theorem collect_of_fails (h : Succeed done s as) (hfails : (x (leave done s)).result = .error e) :
    collect (done ++ x :: rest) s =
      { result := .error e
        state := leave (done ++ [x]) s
        events := raised (done ++ [x]) s
        locks := locking (done ++ [x]) s } := by
  induction h with
  | nil s =>
    simpa only [List.nil_append, leave, raised, locking, List.foldl_cons, List.foldl_nil, List.append_nil,
      Nat.add_zero] using collect_cons_of_error hfails
  | cons ha _ ih =>
    rw [List.cons_append, collect_cons_of_ok ha, ih hfails]
    rfl

/-- what comes of steps in order is one thing only: what taking them one by one comes to -/
theorem inOrder_iff (xs : List (Action σ α)) (s : σ) (o : Outcome σ (List α)) :
    InOrder xs s o ↔ o = collect xs s := by
  constructor
  · intro h
    cases h with
    | all has => exact (collect_of_succeed has).symm
    | broken hxs has hfails =>
      subst hxs
      exact (collect_of_fails has hfails).symm
  · rintro rfl
    rcases succeed_or_fails xs s with ⟨as, has⟩ | ⟨done, x, rest, as, e, rfl, has, hfails⟩
    · rw [collect_of_succeed has]
      exact .all has
    · rw [collect_of_fails has hfails]
      exact .broken rfl has hfails

/-- steps that answer with nothing are taken in the same way -/
theorem sequence_eq (xs : List (Action σ Unit)) (s : σ) :
    sequence xs s =
      { result := (collect xs s).result.map fun _ => (), state := (collect xs s).state
        events := (collect xs s).events, locks := (collect xs s).locks } := by
  induction xs generalizing s with
  | nil => rfl
  | cons x xs ih =>
    cases ha : (x s).result with
    | error e =>
      rw [sequence, bind_of_error ha, collect_cons_of_error ha]
      rfl
    | ok a =>
      rw [sequence, bind_of_ok ha, ih, collect_cons_of_ok ha]
      cases (collect xs (x s).state).result <;> rfl

/-- all of them succeed, or those before the one that fails, which is the last one taken -/
theorem sequence_cases (xs : List (Action σ Unit)) (s : σ) :
    (∃ as, Succeed xs s as ∧
        sequence xs s = { result := .ok (), state := leave xs s, events := raised xs s, locks := locking xs s }) ∨
      ∃ done x rest as e, xs = done ++ x :: rest ∧ Succeed done s as ∧ (x (leave done s)).result = .error e ∧
        sequence xs s =
          { result := .error e
            state := leave (done ++ [x]) s
            events := raised (done ++ [x]) s
            locks := locking (done ++ [x]) s } := by
  rcases succeed_or_fails xs s with ⟨as, has⟩ | ⟨done, x, rest, as, e, rfl, has, hfails⟩
  · refine .inl ⟨as, has, ?_⟩
    rw [sequence_eq, collect_of_succeed has]
    rfl
  · refine .inr ⟨done, x, rest, as, e, rfl, has, hfails, ?_⟩
    rw [sequence_eq, collect_of_fails has hfails]
    rfl

end BoardDriver.Action
