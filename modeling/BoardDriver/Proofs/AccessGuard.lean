/-
The guard in front of the registers.

An access is refused for the first of four reasons, in a fixed order: there is no such BAR, nothing is behind it, the
board does not grant the right, the offset is past the end. `Refuses` says when each of them is the first, without
looking at the checks; `Admits` says that none applies.

- `refuses_or_admits`: an access is refused for one reason, or admitted to one backend, and never both;
- `guarded_of_refuses`: a refused access leaves the whole table as it was, and with it the record of every backend;
- `guarded_of_admits`: an admitted one is carried out on the bank it names, on nothing else;
- `Recorded.call_read`, `Recorded.call_write`, `Recorded.modify_eq`: which calls a backend receives then;
- `guards_of_entered`: both together, for whatever is entered in the record;
- `UserAccess`, `readRange_induction`: all that a session can ask for, and what is done for it.
-/
import Mathlib.Logic.ExistsUnique
import BoardDriver.Register.Recorded
import BoardDriver.Register.Table

namespace BoardDriver

/-- whether the board's table holds the rights that an access takes; a modification takes two -/
def Mode.Grants (m : Mode) (bar : Nat) (kind : AccessKind) : Prop :=
  ∃ held, m.rights[bar]? = some held ∧
    match kind with
    | .read => held.read = true
    | .write => held.write = true
    | .modify => held.read = true ∧ held.write = true
    | .event => held.event = true

theorem Mode.permits_iff (m : Mode) (bar : Nat) (kind : AccessKind) :
    m.permits bar kind = true ↔ m.Grants bar kind := by
  unfold permits Grants
  cases m.rights[bar]? with
  | none => simp
  | some held => cases kind <;> simp [Rights.contains, AccessKind.rights]

namespace RegisterTable

variable {β α : Type}

/-- the first reason against an access -/
inductive Refuses (t : RegisterTable β) (bar : Nat) (kind : AccessKind) (offset : UInt32) : Error → Prop
  | noBar : t.banks.length ≤ bar → Refuses t bar kind offset (.invalidBar bar)
  | nothingBehind {b : RegisterBank β} : t.banks[bar]? = some b → b.backend = none →
      Refuses t bar kind offset (.barDisabled bar)
  | noRight {b : RegisterBank β} {s : β} : t.banks[bar]? = some b → b.backend = some s → ¬ t.mode.Grants bar kind →
      Refuses t bar kind offset (.permissionDenied bar kind.name t.mode.name)
  | pastEnd {b : RegisterBank β} {s : β} : t.banks[bar]? = some b → b.backend = some s → t.mode.Grants bar kind →
      b.size ≤ offset.toNat → Refuses t bar kind offset (.outOfRange offset.toNat b.size)

/-- no reason is against an access, and this is the bank and the backend that it is meant for -/
structure Admits (t : RegisterTable β) (bar : Nat) (kind : AccessKind) (offset : UInt32) (b : RegisterBank β) (s : β) :
    Prop where
  bank : t.banks[bar]? = some b
  backend : b.backend = some s
  granted : t.mode.Grants bar kind
  inside : offset.toNat < b.size

section

variable {t : RegisterTable β} {bar : Nat} {kind : AccessKind} {offset : UInt32}

/-! ## The checks find the first reason -/

theorem checkAccess_of_refuses {e : Error} (h : t.Refuses bar kind offset e) :
    t.checkAccess bar kind offset = .error e := by
  unfold checkAccess bank?
  cases h with
  | noBar hlen => rw [List.getElem?_eq_none hlen]
  | nothingBehind hb hs => simp [hb, RegisterBank.isEnabled, hs]
  | noRight hb hs hno =>
    have hp : t.mode.permits bar kind = false := by
      rw [← Bool.not_eq_true, Mode.permits_iff]
      exact hno
    simp [hb, RegisterBank.isEnabled, hs, hp]
  | pastEnd hb hs hyes hsize =>
    have hp := (t.mode.permits_iff bar kind).2 hyes
    simp [hb, RegisterBank.isEnabled, hs, hp, hsize]

theorem checkAccess_of_admits {b : RegisterBank β} {s : β} (h : t.Admits bar kind offset b s) :
    t.checkAccess bar kind offset = .ok b := by
  have hp := (t.mode.permits_iff bar kind).2 h.granted
  have hin := h.inside
  simp [checkAccess, bank?, h.bank, RegisterBank.isEnabled, h.backend, hp, hin]

/-- one reason, or none -/
theorem refuses_or_admits (t : RegisterTable β) (bar : Nat) (kind : AccessKind) (offset : UInt32) :
    ((∃! e, t.Refuses bar kind offset e) ∧ ∀ b s, ¬ t.Admits bar kind offset b s) ∨
      ((∀ e, ¬ t.Refuses bar kind offset e) ∧ ∃ b s, t.Admits bar kind offset b s) := by
  have exclusive : ∀ e b s, t.Refuses bar kind offset e → ¬ t.Admits bar kind offset b s := by
    intro e b s hr ha
    cases (checkAccess_of_refuses hr).symm.trans (checkAccess_of_admits ha)
  have one : ∀ e, t.Refuses bar kind offset e → ∃! e, t.Refuses bar kind offset e := by
    intro e he
    refine ⟨e, he, fun e' he' => ?_⟩
    cases (checkAccess_of_refuses he').symm.trans (checkAccess_of_refuses he)
    rfl
  have refused : ∀ e, t.Refuses bar kind offset e →
      ((∃! e, t.Refuses bar kind offset e) ∧ ∀ b s, ¬ t.Admits bar kind offset b s) :=
    fun e he => ⟨one e he, fun b s => exclusive e b s he⟩
  cases hb : t.banks[bar]? with
  | none => exact .inl (refused _ (.noBar (List.getElem?_eq_none_iff.1 hb)))
  | some b =>
    cases hs : b.backend with
    | none => exact .inl (refused _ (.nothingBehind hb hs))
    | some s =>
      by_cases hg : t.mode.Grants bar kind
      · rcases Nat.lt_or_ge offset.toNat b.size with hin | hout
        · have ha : t.Admits bar kind offset b s := ⟨hb, hs, hg, hin⟩
          exact .inr ⟨fun e he => exclusive e b s he ha, b, s, ha⟩
        · exact .inl (refused _ (.pastEnd hb hs hg hout))
      · exact .inl (refused _ (.noRight hb hs hg))

/-! ## What a guarded step leaves behind -/

theorem guarded_of_refuses {e : Error} (x : Action (RegisterBank β) α) (h : t.Refuses bar kind offset e) :
    guarded bar kind offset x t = { result := .error e, state := t } := by
  unfold guarded
  rw [checkAccess_of_refuses h]

theorem guarded_of_admits {b : RegisterBank β} {s : β} (x : Action β α) (h : t.Admits bar kind offset b s) :
    guarded bar kind offset (RegisterBank.onBackend x) t =
      { result := (x s).result, state := t.setBank bar { b with backend := some (x s).state },
        events := (x s).events, locks := 1 } := by
  unfold guarded
  rw [checkAccess_of_admits h]
  simp only [Action.on, RegisterBank.onBackend, h.backend]

end

/-- a table has a place for every BAR of a board -/
theorem barCount_le_length_ofBanks (mode : Mode) (banks : List (RegisterBank β)) :
    barCount ≤ (ofBanks mode banks).banks.length := by
  simp only [ofBanks, List.length_append, List.length_map, List.length_range]
  omega

end RegisterTable

/-! ## The calls that a backend receives -/

/-- what a modification is to a backend: a read, and a write if the read succeeds -/
def RegisterBackend.modify {β : Type} [RegisterBackend β] (offset clear set : UInt32) : Action β UInt32 := fun s =>
  let first := RegisterBackend.read offset s
  match first.result with
  | .error _ => first
  | .ok old =>
    let new := (old &&& ~~~clear) ||| set
    let second := RegisterBackend.write offset new first.state
    { result := second.result.map fun _ => new
      state := second.state
      events := first.events ++ second.events
      locks := first.locks + second.locks }

def RegisterBackend.modifyCalls {β : Type} [RegisterBackend β] (offset clear set : UInt32) (s : β) :
    List BackendCall :=
  match (RegisterBackend.read offset s).result with
  | .error _ => [.read offset]
  | .ok old => [.read offset, .write offset ((old &&& ~~~clear) ||| set)]

namespace Recorded

variable {β α : Type}

/-- a step of the backend that is entered in the record as these calls -/
def entered (calls : β → List BackendCall) (x : Action β α) : Action (Recorded β) α := fun r =>
  { result := (x r.backend).result
    state := { backend := (x r.backend).state, log := (calls r.backend).reverse ++ r.log }
    events := (x r.backend).events
    locks := (x r.backend).locks }

theorem calls_entered (calls : β → List BackendCall) (x : Action β α) (r : Recorded β) :
    (entered calls x r).state.calls = r.calls ++ calls r.backend := by
  simp [entered, Recorded.calls]

variable [RegisterBackend β]

theorem call_read (offset : UInt32) :
    (RegisterBackend.read offset : Action (Recorded β) UInt32) =
      entered (fun _ => [.read offset]) (RegisterBackend.read offset) := rfl

theorem call_write (offset value : UInt32) :
    (RegisterBackend.write offset value : Action (Recorded β) Unit) =
      entered (fun _ => [.write offset value]) (RegisterBackend.write offset value) := rfl

/-- the steps of a modification, each entered as it is made -/
theorem modify_eq (offset clear set : UInt32) :
    (RegisterBank.modify offset clear set : Action (RegisterBank (Recorded β)) UInt32) =
      RegisterBank.onBackend
        (entered (RegisterBackend.modifyCalls offset clear set) (RegisterBackend.modify offset clear set)) := by
  unfold RegisterBank.modify
  congr 1
  funext r
  let write (old : UInt32) : Action (Recorded β) UInt32 :=
    Action.bind (RegisterBackend.write offset ((old &&& ~~~clear) ||| set)) fun _ =>
      Action.pure ((old &&& ~~~clear) ||| set)
  change Action.bind (RegisterBackend.read offset) write r = _
  rw [call_read]
  cases hread : (RegisterBackend.read offset r.backend).result with
  | error e => simp only [Action.bind, entered, RegisterBackend.modifyCalls, RegisterBackend.modify, hread]
  | ok old =>
    cases hwrite : (RegisterBackend.write offset ((old &&& ~~~clear) ||| set)
        (RegisterBackend.read offset r.backend).state).result <;>
      simp [Action.bind, Action.pure, Except.map, entered, RegisterBackend.modifyCalls, RegisterBackend.modify, hread,
        write, call_write, hwrite]

end Recorded

/-! ## The four operations -/

namespace RegisterTable

variable {β α : Type}

/-- an operation behind the guard: refused for the first reason, and then everything is as it was and no lock has been
taken; or the step `x` of the one backend that it is meant for, which receives these calls, under one lock, and whose
answer it passes on -/
def Guards (t : RegisterTable (Recorded β)) (bar : Nat) (kind : AccessKind) (offset : UInt32)
    (calls : β → List BackendCall) (x : Action β α) (o : Outcome (RegisterTable (Recorded β)) α) : Prop :=
  (∀ e, t.Refuses bar kind offset e → o = { result := .error e, state := t, events := [] }) ∧
  (∀ b r, t.Admits bar kind offset b r →
    o.result = (x r.backend).result ∧ o.events = (x r.backend).events ∧ o.locks = 1 ∧
    ∃ r', o.state = t.setBank bar { b with backend := some r' } ∧ r'.backend = (x r.backend).state ∧
      r'.calls = r.calls ++ calls r.backend)

theorem guards_of_entered (t : RegisterTable (Recorded β)) (bar : Nat) (kind : AccessKind) (offset : UInt32)
    (calls : β → List BackendCall) (x : Action β α) :
    t.Guards bar kind offset calls x
      (guarded bar kind offset (RegisterBank.onBackend (Recorded.entered calls x)) t) := by
  constructor
  · intro e he
    exact guarded_of_refuses _ he
  · intro b r ha
    rw [guarded_of_admits _ ha]
    exact ⟨rfl, rfl, rfl, _, rfl, rfl, Recorded.calls_entered calls x r⟩

/-- **A refused access never reaches a backend.** For every table of banks, each with any backend behind it or none:
- an access is refused for one reason, the first that applies, or admitted to one backend;
- a read, a write, a modification and a change of mode that are refused answer with that reason; no backend is called,
  nothing is reported, no register changes;
- one that is admitted is one call of the backend it is meant for (a modification a read, and then a write if the read
  succeeds, under the same lock), leaves every other bank alone and passes the backend's answer on;
- a table made of banks has six places at least. -/
theorem refused_access_untouched [RegisterBackend β] (t : RegisterTable (Recorded β)) (bar : Nat)
    (offset value clear set mode : UInt32) :
    (∀ kind,
      ((∃! e, t.Refuses bar kind offset e) ∧ ∀ b r, ¬ t.Admits bar kind offset b r) ∨
      ((∀ e, ¬ t.Refuses bar kind offset e) ∧ ∃ b r, t.Admits bar kind offset b r)) ∧
    t.Guards bar .read offset (fun _ => [.read offset]) (RegisterBackend.read offset) (read bar offset t) ∧
    t.Guards bar .write offset (fun _ => [.write offset value]) (RegisterBackend.write offset value)
      (write bar offset value t) ∧
    t.Guards bar .modify offset (RegisterBackend.modifyCalls offset clear set)
      (RegisterBackend.modify offset clear set) (modify bar offset clear set t) ∧
    t.Guards bar .event offset (fun _ => [.setMode offset mode]) (RegisterBackend.setMode offset mode)
      (setMode bar offset mode t) ∧
    (∀ (m : Mode) (banks : List (RegisterBank (Recorded β))), 6 ≤ (ofBanks m banks).banks.length) := by
  refine ⟨fun kind => t.refuses_or_admits bar kind offset, ?_, ?_, ?_, ?_, barCount_le_length_ofBanks⟩
  · exact t.guards_of_entered bar .read offset _ _
  · exact t.guards_of_entered bar .write offset _ _
  · unfold modify
    rw [Recorded.modify_eq]
    exact t.guards_of_entered bar .modify offset _ _
  · exact t.guards_of_entered bar .event offset _ _

/-! ## What a session can ask for -/

variable [RegisterBackend β]

/-- the accesses that a session can ask for -/
inductive UserAccess : ∀ {α : Type}, Action (RegisterTable β) α → Prop
  | read (bar : Nat) (offset : UInt32) : UserAccess (read bar offset)
  | readRange (bar : Nat) (offset : UInt32) (count : Nat) : UserAccess (readRange bar offset count)
  | write (bar : Nat) (offset value : UInt32) : UserAccess (write bar offset value)
  | modify (bar : Nat) (offset clear set : UInt32) : UserAccess (modify bar offset clear set)
  | setMode (bar : Nat) (offset mode : UInt32) : UserAccess (setMode bar offset mode)

/-- a range is read by reads in sequence; a place past the 32-bit offsets is refused -/
theorem readRange_induction {P : ∀ {α : Type}, Action (RegisterTable β) α → Prop}
    (hpure : ∀ {α : Type} (a : α), P (Action.pure a))
    (hpast : ∀ {α : Type} (place : Nat), UInt32.size ≤ place →
      P (Action.fail (α := α) (.outOfRange place (UInt32.size - 1))))
    (hbind : ∀ {α α' : Type} {x : Action (RegisterTable β) α} {f : α → Action (RegisterTable β) α'},
      P x → (∀ a, P (f a)) → P (Action.bind x f))
    {bar : Nat} (hread : ∀ offset, P (read (β := β) bar offset)) (offset : UInt32) (count : Nat) :
    P (readRange (β := β) bar offset count) := by
  have place : ∀ i, P (readPlace (β := β) bar offset i) := by
    intro i
    unfold readPlace
    dsimp only
    split
    · exact hread _
    · rename_i hplace
      refine hpast _ ?_
      rw [toNat_widePlaceAfter]
      exact (placeAfter?_eq_none_iff offset _).1 hplace
  have places : ∀ i, P (readPlaces (β := β) bar offset i count) := by
    induction count with
    | zero => exact fun i => hpure []
    | succ count ih =>
      intro i
      refine hbind (place i) fun value => ?_
      exact hbind (ih (i + 1)) fun rest => hpure (value :: rest)
  exact places 0

/-- so what holds of every read and every refusal holds of a range -/
theorem readRange_of_read {P : ∀ {α : Type}, Action (RegisterTable β) α → Prop}
    (hpure : ∀ {α : Type} (a : α), P (Action.pure a)) (hfail : ∀ {α : Type} (e : Error), P (Action.fail (α := α) e))
    (hbind : ∀ {α α' : Type} {x : Action (RegisterTable β) α} {f : α → Action (RegisterTable β) α'},
      P x → (∀ a, P (f a)) → P (Action.bind x f))
    {bar : Nat} (hread : ∀ offset, P (read (β := β) bar offset)) (offset : UInt32) (count : Nat) :
    P (readRange (β := β) bar offset count) :=
  readRange_induction hpure (fun _ _ => hfail _) hbind hread offset count

end RegisterTable
end BoardDriver
