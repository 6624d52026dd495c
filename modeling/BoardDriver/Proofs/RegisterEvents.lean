/-
What registers report: reads and writes, nothing else.

The subscribers are told of every event that an access to the registers raises. Here it is shown that no such event is
the end of a transfer, whichever backend is behind the BAR and however the access was put together.

- `Action.Plain`: a step that reports no end of a transfer, and how such steps are put together;
- `RegisterTable.UserAccess.plain`: the accesses of user space;
- `Start.plain_program`: the accesses of the board's own engine.
-/
import BoardDriver.Device.Basic
import BoardDriver.Proofs.AccessGuard

namespace BoardDriver

namespace Action

variable {σ α β : Type}

/-- whatever the step reports is not the end of a transfer -/
def Plain (x : Action σ α) : Prop := ∀ s, ∀ e ∈ (x s).events, e.payload.kind ≠ .dmaDone

theorem plain_pure (a : α) : Plain (Action.pure a : Action σ α) := fun _ _ he => nomatch he

theorem plain_fail (e : Error) : Plain (Action.fail e : Action σ α) := fun _ _ he => nomatch he

theorem Plain.bind {x : Action σ α} {f : α → Action σ β} (hx : x.Plain) (hf : ∀ a, (f a).Plain) :
    (Action.bind x f).Plain := by
  intro s e he
  cases h : (x s).result with
  | error err =>
    rw [bind_of_error h] at he
    exact hx s e he
  | ok a =>
    rw [bind_of_ok h] at he
    rcases List.mem_append.1 he with he | he
    · exact hx s e he
    · exact hf a _ e he

theorem plain_sequence {xs : List (Action σ Unit)} (h : ∀ x ∈ xs, x.Plain) : (sequence xs).Plain := by
  induction xs with
  | nil => exact plain_pure ()
  | cons x xs ih => exact (h x List.mem_cons_self).bind fun _ => ih fun y hy => h y (List.mem_cons_of_mem _ hy)

end Action

/-! ## The backends of a board -/

namespace RegisterFile

theorem plain_read (offset : UInt32) : (read offset).Plain := by
  intro f e he
  unfold read at he
  cases hr : f.register offset with
  | error err => simp [hr] at he
  | ok r =>
    by_cases hread : r.allows RegisterMode.readable <;> by_cases hevent : r.allows RegisterMode.readEvent <;>
      simp [hr, hread, hevent] at he
    simp [he, Event.ofPayload, Payload.kind]

theorem plain_write (offset value : UInt32) : (write offset value).Plain := by
  intro f e he
  unfold write at he
  cases hr : f.register offset with
  | error err => simp [hr] at he
  | ok r =>
    by_cases hwrite : r.allows RegisterMode.writable <;> by_cases hevent : r.allows RegisterMode.writeEvent <;>
      simp [hr, hwrite, hevent] at he
    simp [he, Event.ofPayload, Payload.kind]

theorem plain_setMode (offset mode : UInt32) : (setMode offset mode).Plain := by
  intro f e he
  unfold setMode at he
  cases hr : f.register offset <;> simp [hr] at he

end RegisterFile

namespace MappedWindow

theorem plain_read (offset : UInt32) : (read offset).Plain := by
  intro w e he
  unfold read at he
  split at he <;> cases he

theorem plain_write (offset value : UInt32) : (write offset value).Plain := by
  intro w e he
  unfold write at he
  split at he <;> cases he

end MappedWindow

namespace BoardBackend

variable {α : Type}

theorem plain_act {x : Action RegisterFile α} {y : Action MappedWindow α} (hx : x.Plain) (hy : y.Plain) :
    (act x y).Plain := by
  intro b e he
  cases b with
  | simulated f => exact hx f e he
  | mapped w | memoryBus w => exact hy w e he

theorem plain_read (offset : UInt32) : (RegisterBackend.read offset : Action BoardBackend UInt32).Plain :=
  plain_act (RegisterFile.plain_read offset) (MappedWindow.plain_read offset)

theorem plain_write (offset value : UInt32) : (RegisterBackend.write offset value : Action BoardBackend Unit).Plain :=
  plain_act (RegisterFile.plain_write offset value) (MappedWindow.plain_write offset value)

theorem plain_setMode (offset mode : UInt32) : (RegisterBackend.setMode offset mode : Action BoardBackend Unit).Plain :=
  plain_act (RegisterFile.plain_setMode offset mode) (Action.plain_pure ())

end BoardBackend

/-! ## Banks and tables -/

variable {α : Type}

theorem RegisterBank.plain_onBackend {x : Action BoardBackend α} (h : x.Plain) :
    (RegisterBank.onBackend x).Plain := by
  intro b e he
  unfold RegisterBank.onBackend at he
  split at he
  · cases he
  · exact h _ e he

/-- the accesses of the board's own engine -/
theorem Start.plain_program (s : Start) : (s.program : Action (RegisterBank BoardBackend) Unit).Plain := by
  refine RegisterBank.plain_onBackend (Action.plain_sequence fun x hx => ?_)
  obtain ⟨w, -, rfl⟩ := List.mem_map.1 hx
  exact BoardBackend.plain_write w.1 w.2

namespace RegisterTable

theorem plain_onBank? {x : Action (RegisterBank BoardBackend) α} (h : x.Plain) {t : RegisterTable BoardBackend}
    {bar : Nat} {o : Outcome (RegisterTable BoardBackend) α} (ho : t.onBank? bar x = some o) :
    ∀ e ∈ o.events, e.payload.kind ≠ .dmaDone := by
  obtain ⟨b, -, rfl⟩ := Option.map_eq_some_iff.1 ho
  exact h b

theorem plain_guarded {bar : Nat} {kind : AccessKind} {offset : UInt32} {x : Action BoardBackend α} (h : x.Plain) :
    (guarded bar kind offset (RegisterBank.onBackend x)).Plain := by
  intro t e he
  unfold guarded at he
  split at he
  · cases he
  · exact RegisterBank.plain_onBackend h _ e he

theorem plain_read (bar : Nat) (offset : UInt32) :
    (read bar offset : Action (RegisterTable BoardBackend) UInt32).Plain :=
  plain_guarded (BoardBackend.plain_read offset)

theorem plain_write (bar : Nat) (offset value : UInt32) :
    (write bar offset value : Action (RegisterTable BoardBackend) Unit).Plain :=
  plain_guarded (BoardBackend.plain_write offset value)

theorem plain_modify (bar : Nat) (offset clear set : UInt32) :
    (modify bar offset clear set : Action (RegisterTable BoardBackend) UInt32).Plain := by
  refine plain_guarded ((BoardBackend.plain_read offset).bind fun old => ?_)
  exact (BoardBackend.plain_write offset _).bind fun _ => Action.plain_pure _

theorem plain_setMode (bar : Nat) (offset mode : UInt32) :
    (setMode bar offset mode : Action (RegisterTable BoardBackend) Unit).Plain :=
  plain_guarded (BoardBackend.plain_setMode offset mode)

theorem plain_readRange (bar : Nat) (offset : UInt32) (count : Nat) :
    (readRange bar offset count : Action (RegisterTable BoardBackend) (List UInt32)).Plain :=
  readRange_of_read (P := Action.Plain) Action.plain_pure Action.plain_fail Action.Plain.bind (plain_read bar) offset
    count

theorem UserAccess.plain {x : Action (RegisterTable BoardBackend) α} (h : UserAccess x) : x.Plain := by
  cases h with
  | read bar offset => exact plain_read bar offset
  | readRange bar offset count => exact plain_readRange bar offset count
  | write bar offset value => exact plain_write bar offset value
  | modify bar offset clear set => exact plain_modify bar offset clear set
  | setMode bar offset mode => exact plain_setMode bar offset mode

end RegisterTable
end BoardDriver
