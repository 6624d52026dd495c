/-
Checks that are made in order, and the error of the first that fails.

What is checked is listed beforehand, as propositions with their errors, so that a statement on which error is answered
does not mention the computation that answers it.

- `Condition.FirstFailure`: the first condition of a list that does not hold, and its error;
- `Condition.Decides`: a computation succeeds if all of a list of conditions hold, and fails with the error of the first
  that does not;
- `Condition.Decides.bind`, `Condition.decides_mapM`: such computations may be put together.
-/
import BoardDriver.Error

namespace BoardDriver

/-- something that has to hold, and the error that is answered if it is the first that does not -/
structure Condition where
  holds : Prop
  error : Error

namespace Condition

variable {α β : Type} {c : Condition} {cs ds : List Condition} {e : Error} {x : Except Error α}
  {Q : α → Prop} {R : β → Prop}

/-- `e` is the error of the first condition that does not hold -/
inductive FirstFailure : List Condition → Error → Prop
  | here {c : Condition} (cs : List Condition) : ¬ c.holds → FirstFailure (c :: cs) c.error
  | later {c : Condition} {cs : List Condition} {e : Error} : c.holds → FirstFailure cs e → FirstFailure (c :: cs) e

theorem FirstFailure.not_all (h : FirstFailure cs e) : ¬ ∀ c ∈ cs, c.holds := by
  induction h with
  | here cs hc => exact fun hall => hc (hall _ List.mem_cons_self)
  | later _ _ ih => exact fun hall => ih fun c hc => hall c (List.mem_cons_of_mem _ hc)

theorem FirstFailure.unique {e' : Error} (h : FirstFailure cs e) (h' : FirstFailure cs e') : e = e' := by
  induction h with
  | here cs hc =>
    cases h' with
    | here => rfl
    | later hc' => exact absurd hc' hc
  | later hc _ ih =>
    cases h' with
    | here _ hc' => exact absurd hc hc'
    | later _ h' => exact ih h'

theorem FirstFailure.append (h : FirstFailure cs e) (ds : List Condition) : FirstFailure (cs ++ ds) e := by
  induction h with
  | here cs hc => exact .here _ hc
  | later hc _ ih => exact .later hc ih

theorem FirstFailure.append_of_all (hall : ∀ c ∈ cs, c.holds) (h : FirstFailure ds e) : FirstFailure (cs ++ ds) e := by
  induction cs with
  | nil => exact h
  | cons c cs ih => exact .later (hall c List.mem_cons_self) (ih fun d hd => hall d (List.mem_cons_of_mem c hd))

/-- its error is that of one of the conditions -/
theorem FirstFailure.exists_mem (h : FirstFailure cs e) : ∃ c ∈ cs, c.error = e := by
  induction h with
  | here cs _ => exact ⟨_, List.mem_cons_self, rfl⟩
  | later _ _ ih =>
    obtain ⟨c, hc, he⟩ := ih
    exact ⟨c, List.mem_cons_of_mem _ hc, he⟩

/-- the computation succeeds, with such a result, if all conditions hold; otherwise it fails with the error of the first
that does not -/
def Decides (x : Except Error α) (cs : List Condition) (Q : α → Prop) : Prop :=
  match x with
  | .ok a => (∀ c ∈ cs, c.holds) ∧ Q a
  | .error e => FirstFailure cs e

theorem Decides.exists_ok_iff (h : Decides x cs Q) : (∃ a, x = .ok a) ↔ ∀ c ∈ cs, c.holds := by
  cases x with
  | ok a => exact ⟨fun _ => h.1, fun _ => ⟨a, rfl⟩⟩
  | error e =>
    refine ⟨?_, fun hall => absurd hall (FirstFailure.not_all h)⟩
    rintro ⟨_, ⟨⟩⟩

theorem Decides.eq_error_iff (h : Decides x cs Q) (e : Error) : x = .error e ↔ FirstFailure cs e := by
  cases x with
  | ok a =>
    refine ⟨?_, fun hfail => absurd h.1 hfail.not_all⟩
    rintro ⟨⟩
  | error e' =>
    constructor
    · rintro ⟨⟩
      exact h
    · intro hfail
      rw [FirstFailure.unique h hfail]

theorem Decides.of_eq_ok {a : α} (h : Decides x cs Q) (ha : x = .ok a) : Q a := by
  subst ha
  exact h.2

theorem decides_pure {a : α} (ha : Q a) : Decides (.ok a) [] Q := by
  refine ⟨?_, ha⟩
  rintro _ ⟨⟩

/-- one check -/
theorem decides_one (hpass : c.holds → ∃ a, x = .ok a ∧ Q a) (hfail : ¬ c.holds → x = .error c.error) :
    Decides x [c] Q := by
  by_cases hc : c.holds
  · obtain ⟨a, rfl, ha⟩ := hpass hc
    refine ⟨?_, ha⟩
    intro d hd
    rw [List.mem_singleton.1 hd]
    exact hc
  · rw [hfail hc]
    exact .here [] hc

/-- the second computation follows if the first succeeds -/
theorem Decides.bind {f : α → Except Error β} (hx : Decides x cs Q)
    (hf : ∀ a, (∀ c ∈ cs, c.holds) → Q a → Decides (f a) ds R) : Decides (x >>= f) (cs ++ ds) R := by
  cases x with
  | error e => exact FirstFailure.append hx ds
  | ok a =>
    obtain ⟨hall, ha⟩ := hx
    have hrest := hf a hall ha
    change Decides (f a) (cs ++ ds) R
    cases hfa : f a with
    | error e =>
      rw [hfa] at hrest
      exact FirstFailure.append_of_all hall hrest
    | ok b =>
      rw [hfa] at hrest
      exact ⟨List.forall_mem_append.2 ⟨hall, hrest.1⟩, hrest.2⟩

/-- one computation for each entry of a list -/
theorem decides_mapM {f : α → Except Error β} {g : α → β} {cond : α → Condition} (as : List α)
    (h : ∀ a ∈ as, Decides (f a) [cond a] (· = g a)) : Decides (as.mapM f) (as.map cond) (· = as.map g) := by
  induction as with
  | nil => exact decides_pure rfl
  | cons a as ih =>
    rw [List.mapM_cons, List.map_cons, List.map_cons]
    change Decides _ ([cond a] ++ as.map cond) _
    apply (h a List.mem_cons_self).bind
    rintro _ - rfl
    rw [← List.append_nil (as.map cond)]
    apply (ih fun b hb => h b (List.mem_cons_of_mem a hb)).bind
    rintro _ - rfl
    exact decides_pure rfl

end Condition

end BoardDriver
