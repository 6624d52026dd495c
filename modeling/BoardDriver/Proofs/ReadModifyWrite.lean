/-
A modification is a read and then a write, as one.

It has a guard of its own, which asks for two rights at once, and it goes to the backend as one step, under one lock. So
that it does what a guarded read and a guarded write would do, one after the other and each under a lock of its own,
takes an argument, and so does that it never stops halfway.

- `Admits.read_of_modify`, `Admits.write_of_modify`, `Admits.modify_of_write`: its guard is that of the read and, in the
table that the read leaves, that of the write;
- `readThenWrite_cases`: what comes of the two;
- `modify_of_admits`, `readThenWrite_of_refuses`: past the guard it is these two, and where the guard refuses it, one of
them fails as well;
- `modify_of_error`: on the backends of a board it does all or nothing;
- `modify_is_read_then_write`: both together.
-/
import BoardDriver.Proofs.BackendAccess

namespace BoardDriver

/-- what becomes of a value when some bits are cleared and then some are set -/
def modified (old clear set : UInt32) : UInt32 := (old &&& ~~~clear) ||| set

namespace RegisterTable

variable {β : Type} {t : RegisterTable β} {bar : Nat} {offset clear set : UInt32} {b b' : RegisterBank β} {s s' : β}

/-! ## The guards -/

theorem Admits.read_of_modify (h : t.Admits bar .modify offset b s) : t.Admits bar .read offset b s := by
  obtain ⟨held, hheld, hread, -⟩ := h.granted
  exact ⟨h.bank, h.backend, ⟨held, hheld, hread⟩, h.inside⟩

/-- the read leaves the bank open to the write -/
theorem Admits.write_of_modify (h : t.Admits bar .modify offset b s) (s' : β) :
    (t.setBank bar { b with backend := some s' }).Admits bar .write offset { b with backend := some s' } s' := by
  obtain ⟨held, hheld, -, hwrite⟩ := h.granted
  have hlen := (List.getElem?_eq_some_iff.1 h.bank).1
  exact ⟨List.getElem?_set_self hlen, rfl, ⟨held, hheld, hwrite⟩, h.inside⟩

/-- both rights are held by the same entry of the board's table -/
theorem Admits.modify_of_write {u : RegisterTable β} (hread : t.Admits bar .read offset b s)
    (hwrite : u.Admits bar .write offset b' s') (hmode : u.mode = t.mode) : t.Admits bar .modify offset b s := by
  obtain ⟨held, hheld, hr⟩ := hread.granted
  obtain ⟨held', hheld', hw⟩ := hwrite.granted
  rw [hmode] at hheld'
  cases hheld.symm.trans hheld'
  exact ⟨hread.bank, hread.backend, ⟨held, hheld, hr, hw⟩, hread.inside⟩

/-- a guarded step that succeeds has been admitted -/
theorem admits_of_ok {α : Type} {kind : AccessKind} {x : Action β α} {a : α}
    (h : (guarded bar kind offset (RegisterBank.onBackend x) t).result = .ok a) :
    ∃ b s, t.Admits bar kind offset b s := by
  rcases t.refuses_or_admits bar kind offset with ⟨⟨e, he, -⟩, -⟩ | ⟨-, hadmits⟩
  · rw [guarded_of_refuses _ he] at h
    cases h
  · exact hadmits

theorem setBank_same (hb : t.banks[bar]? = some b) (hs : b.backend = some s) :
    t.setBank bar { b with backend := some s } = t := by
  obtain ⟨hlt, rfl⟩ := List.getElem?_eq_some_iff.1 hb
  rw [setBank, ← hs, List.set_getElem_self]

theorem mode_guarded {α : Type} {kind : AccessKind} {x : Action β α} :
    (guarded bar kind offset (RegisterBank.onBackend x) t).state.mode = t.mode := by
  rcases t.refuses_or_admits bar kind offset with ⟨⟨e, he, -⟩, -⟩ | ⟨-, b, s, ha⟩
  · rw [guarded_of_refuses _ he]
  · rw [guarded_of_admits x ha]
    rfl

/-! ## The two steps -/

variable [RegisterBackend β]

/-- a guarded read, and then a guarded write of what has been read with some bits changed -/
def readThenWrite (bar : Nat) (offset clear set : UInt32) : Action (RegisterTable β) UInt32 :=
  Action.bind (read bar offset) fun old =>
    Action.bind (write bar offset (modified old clear set)) fun _ => Action.pure (modified old clear set)

/-- past its guard, a modification is the two steps, but for the locks that they take -/
theorem modify_of_admits (h : t.Admits bar .modify offset b s) :
    modify bar offset clear set t = { readThenWrite bar offset clear set t with locks := 1 } := by
  have hread : read bar offset t = _ := guarded_of_admits (RegisterBackend.read offset) h.read_of_modify
  rw [modify, RegisterBank.modify_eq, guarded_of_admits _ h, readThenWrite, RegisterBackend.modify]
  cases hr : (RegisterBackend.read offset s).result with
  | error e =>
    have hfails : (read bar offset t).result = .error e := (congrArg Outcome.result hread).trans hr
    rw [Action.bind_of_error hfails, hread]
    simp only [hr]
  | ok old =>
    have hok : (read bar offset t).result = .ok old := (congrArg Outcome.result hread).trans hr
    have hwrite : write bar offset (modified old clear set) _ = _ :=
      guarded_of_admits (RegisterBackend.write offset (modified old clear set))
        (h.write_of_modify (RegisterBackend.read offset s).state)
    rw [Action.bind_of_ok hok, Action.bind_pure, hread]
    simp only [hwrite]
    -- the bank is put back twice, and the second time counts
    simp only [setBank, List.set_set]
    rfl

/-- the read fails, or what comes of the two steps is what comes of the write -/
theorem readThenWrite_cases (t : RegisterTable β) (bar : Nat) (offset clear set : UInt32) :
    let first := read bar offset t
    (∃ e, first.result = .error e ∧
        readThenWrite bar offset clear set t =
          { result := .error e, state := first.state, events := first.events, locks := first.locks }) ∨
      ∃ old, first.result = .ok old ∧
        let second := write bar offset (modified old clear set) first.state
        readThenWrite bar offset clear set t =
          { result := second.result.map fun _ => modified old clear set
            state := second.state
            events := first.events ++ second.events
            locks := first.locks + second.locks } := by
  intro first
  cases hread : first.result with
  | error e => exact .inl ⟨e, rfl, Action.bind_of_error hread⟩
  | ok old =>
    refine .inr ⟨old, rfl, ?_⟩
    rw [readThenWrite, Action.bind_of_ok hread, Action.bind_pure]

/-- they succeed if each of them does -/
theorem readThenWrite_eq_ok_iff {new : UInt32} :
    (readThenWrite bar offset clear set t).result = .ok new ↔
      ∃ old, (read bar offset t).result = .ok old ∧
        (write bar offset (modified old clear set) (read bar offset t).state).result = .ok () ∧
        new = modified old clear set := by
  rcases t.readThenWrite_cases bar offset clear set with ⟨e, hread, hsteps⟩ | ⟨old, hread, hsteps⟩
  · rw [hsteps, hread]
    exact ⟨nofun, fun ⟨_, h, _⟩ => nomatch h⟩
  · rw [hsteps, hread]
    constructor
    · intro h
      cases hwrite : (write bar offset (modified old clear set) (read bar offset t).state).result with
      | error e =>
        rw [hwrite] at h
        cases h
      | ok _ =>
        rw [hwrite] at h
        cases h
        exact ⟨old, rfl, hwrite, rfl⟩
    · rintro ⟨_, hold, hwrite, rfl⟩
      cases hold
      rw [hwrite]
      rfl

/-- where its guard refuses a modification, one of the two steps fails -/
theorem readThenWrite_of_refuses {e : Error} (h : t.Refuses bar .modify offset e) (new : UInt32) :
    (readThenWrite bar offset clear set t).result ≠ .ok new := by
  intro hok
  obtain ⟨old, hread, hwrite, -⟩ := readThenWrite_eq_ok_iff.1 hok
  obtain ⟨b, s, hb⟩ := admits_of_ok hread
  obtain ⟨b', s', hb'⟩ := admits_of_ok hwrite
  have hadmits := hb.modify_of_write hb' mode_guarded
  cases (checkAccess_of_refuses h).symm.trans (checkAccess_of_admits hadmits)

/-- a modification is refused and leaves everything as it was, or it is the two steps under one lock -/
theorem modify_cases (t : RegisterTable β) (bar : Nat) (offset clear set : UInt32) :
    (∃ e, t.Refuses bar .modify offset e ∧ modify bar offset clear set t = { result := .error e, state := t }) ∨
      modify bar offset clear set t = { readThenWrite bar offset clear set t with locks := 1 } := by
  rcases t.refuses_or_admits bar .modify offset with ⟨⟨e, he, -⟩, -⟩ | ⟨-, b, s, ha⟩
  · exact .inl ⟨e, he, guarded_of_refuses _ he⟩
  · exact .inr (modify_of_admits ha)

/-- so it succeeds just when the two steps do, and with what they leave behind -/
theorem modify_eq_ok_iff {new : UInt32} :
    (modify bar offset clear set t).result = .ok new ↔ (readThenWrite bar offset clear set t).result = .ok new := by
  rcases t.modify_cases bar offset clear set with ⟨e, he, hrefused⟩ | hsteps
  · rw [hrefused]
    exact ⟨nofun, fun h => absurd h (readThenWrite_of_refuses he new)⟩
  · rw [hsteps]

theorem modify_of_ok {new : UInt32} (h : (modify bar offset clear set t).result = .ok new) :
    modify bar offset clear set t = { readThenWrite bar offset clear set t with locks := 1 } := by
  rcases t.modify_cases bar offset clear set with ⟨e, -, hrefused⟩ | hsteps
  · rw [hrefused] at h
    cases h
  · exact hsteps

/-- the error is that of the guard, of the read or of the write -/
theorem error_of_modify {e : Error} (h : (modify bar offset clear set t).result = .error e) :
    t.Refuses bar .modify offset e ∨ (read bar offset t).result = .error e ∨
      ∃ old, (read bar offset t).result = .ok old ∧
        (write bar offset (modified old clear set) (read bar offset t).state).result = .error e := by
  rcases t.modify_cases bar offset clear set with ⟨e', he', hrefused⟩ | heq
  · rw [hrefused] at h
    cases h
    exact .inl he'
  · right
    rw [heq] at h
    rcases t.readThenWrite_cases bar offset clear set with ⟨e', hread, hsteps⟩ | ⟨old, hread, hsteps⟩
    · rw [hsteps] at h
      exact .inl (hread.trans h)
    · refine .inr ⟨old, hread, ?_⟩
      rw [hsteps] at h
      cases hwrite : (write bar offset (modified old clear set) (read bar offset t).state).result with
      | error e' =>
        rw [hwrite] at h
        cases h
        rfl
      | ok _ =>
        rw [hwrite] at h
        cases h

/-! ## On the backends of a board -/

section

variable {t : RegisterTable BoardBackend}

/-- a modification that fails changes nothing, and reports its read at most -/
theorem modify_of_error {e : Error} (h : (modify bar offset clear set t).result = .error e) :
    (modify bar offset clear set t).state = t ∧
      ∀ ev ∈ (modify bar offset clear set t).events, ev.payload.kind = .registerRead := by
  rcases t.refuses_or_admits bar .modify offset with ⟨⟨e', he', -⟩, -⟩ | ⟨-, b, s, ha⟩
  · rw [modify, guarded_of_refuses _ he']
    exact ⟨rfl, fun _ hev => nomatch hev⟩
  · rw [modify, RegisterBank.modify_eq, guarded_of_admits _ ha] at h ⊢
    obtain ⟨hsame, hreads⟩ := BoardBackend.modify_of_error h
    refine ⟨?_, hreads⟩
    rw [hsame, setBank_same ha.bank ha.backend]

end

/-- **A modification is a guarded read and then a guarded write, as one.** For every table of simulated and mapped
banks, with registers of any value and mode, and every BAR, offset, clear and set:
- it answers with a value just when a read answers with an old one, the write of the old one with its bits changed
succeeds then, and this is the value;
- it leaves the registers as the two accesses leave them, and reports what they report, but takes the lock of the bank
once for both;
- its error is that of its guard, of the read or of the write; then the whole table is as it was and no write has been
reported. -/
theorem modify_is_read_then_write (t : RegisterTable BoardBackend) (bar : Nat) (offset clear set : UInt32) :
    let o := modify bar offset clear set t
    let first := read bar offset t
    let second old := write bar offset ((old &&& ~~~clear) ||| set) first.state
    (∀ new, o.result = .ok new ↔
      ∃ old, first.result = .ok old ∧ (second old).result = .ok () ∧ new = (old &&& ~~~clear) ||| set) ∧
    (∀ old, first.result = .ok old → (second old).result = .ok () →
      o.state = (second old).state ∧ o.events = first.events ++ (second old).events ∧ o.locks = 1) ∧
    ∀ e, o.result = .error e →
      (t.Refuses bar .modify offset e ∨ first.result = .error e ∨
        ∃ old, first.result = .ok old ∧ (second old).result = .error e) ∧
      o.state = t ∧ ∀ ev ∈ o.events, ev.payload.kind ≠ .registerWrite := by
  intro o first second
  refine ⟨fun new => ?_, fun old hfirst hsecond => ?_, fun e he => ?_⟩
  · exact modify_eq_ok_iff.trans readThenWrite_eq_ok_iff
  · have hok : o.result = .ok _ := modify_eq_ok_iff.2 (readThenWrite_eq_ok_iff.2 ⟨old, hfirst, hsecond, rfl⟩)
    rw [show o = _ from modify_of_ok hok]
    rcases t.readThenWrite_cases bar offset clear set with ⟨e, herror, -⟩ | ⟨_, hold, hsteps⟩
    · cases herror.symm.trans hfirst
    · cases hold.symm.trans hfirst
      rw [hsteps]
      exact ⟨rfl, rfl, rfl⟩
  · obtain ⟨hsame, hreads⟩ := modify_of_error he
    refine ⟨error_of_modify he, hsame, fun ev hev hwrite => ?_⟩
    cases (hreads ev hev).symm.trans hwrite

/-- two registers that report what is read from them, and of which the second cannot be written -/
def halfWritable : RegisterTable BoardBackend :=
  ofBanks .simulator [.ofBackend 0 (some (.simulated
    { bar := 0, registers := #[{ value := 0xf0, mode := 15 }, { value := 5, mode := 9 }] }))]

/-- the first is modified; of the second, only the read is reported -/
theorem modify_is_read_then_write_halfWritable :
    (modify 0 0 0xf0 3 halfWritable).result = .ok 3 ∧
    (modify 0 0 0xf0 3 halfWritable).events.map (fun e => e.payload.kind) = [.registerRead, .registerWrite] ∧
    (modify 0 4 1 2 halfWritable).result = .error (.backend (.notWritable 0 4)) ∧
    (modify 0 4 1 2 halfWritable).state = halfWritable ∧
    (modify 0 4 1 2 halfWritable).events.map (fun e => e.payload.kind) = [.registerRead] := by
  obtain ⟨hiff, hboth, -⟩ := modify_is_read_then_write halfWritable 0 0 0xf0 3
  obtain ⟨-, -, hfails⟩ := modify_is_read_then_write halfWritable 0 4 1 2
  have herror : (modify 0 4 1 2 halfWritable).result = .error (.backend (.notWritable 0 4)) := by rfl
  refine ⟨(hiff 3).2 ⟨0xf0, rfl, rfl, rfl⟩, ?_, herror, (hfails _ herror).2.1, rfl⟩
  rw [(hboth 0xf0 rfl rfl).2.1]
  rfl

end RegisterTable
end BoardDriver
