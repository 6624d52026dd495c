/-
What an error about an offset out of range says.

Such an error names an offset and a limit, the first offset that is not valid. Several checks give it: the guard of the
table compares with the size of the bank, simulated registers with their number, a window with the end of the word, a
range with the 32-bit offsets, and the simulator's memory with its window. All of them name an offset at or past the
limit but one: a mapped window whose bytes are no multiple of 4 ends inside a word, and an access to that word names
the window's size as its limit, which is past the offset. The guard lets such an access through.

- `Error.PastLimit`, `Cut`: what the error should say, and the word at the end of a window;
- `MappedWindow.check_cases`, `RegisterFile.Access.error_cases`: the two kinds of backend;
- `Action.Faithful`: what a step keeps, and the reasons it fails for, of steps in sequence;
- `RegisterTable.faithful_userAccess`, `RegisterTable.faithful_onBank?`: any access of a table, guarded or raw;
- `RegisterTable.Reached`, `RegisterTable.Reached.sized`: the tables there can be, and the sizes that their guard
  compares with;
- `RegisterTable.range_errors`: the whole of it; `RegisterTable.cut_word_refused` is the exception, on a board.
-/
import BoardDriver.Board.Backend
import BoardDriver.Proofs.AccessGuard
import BoardDriver.Proofs.MappedMemory
import BoardDriver.Proofs.RegisterHistory
import BoardDriver.Transfer.OwnedMemory

namespace BoardDriver

/-- an error about an offset out of range names one that is at or past its limit -/
def Error.PastLimit : Error → Prop
  | .outOfRange offset limit => limit ≤ offset
  | _ => True

/-- a word begins inside a window of so many bytes and ends outside -/
def Cut (extent offset : Nat) : Prop := offset % 4 = 0 ∧ offset < extent ∧ extent < offset + 4

instance (extent offset : Nat) : Decidable (Cut extent offset) := inferInstanceAs (Decidable (_ ∧ _))

/-- a window ends inside a word if its bytes are no multiple of 4, and inside the last word only -/
theorem cut_iff (extent offset : Nat) : Cut extent offset ↔ extent % 4 ≠ 0 ∧ offset = extent - extent % 4 := by
  unfold Cut
  omega

/-- a size that does not fit into 32 bits ends after every offset -/
theorem wordSize_le_iff (n : Nat) (offset : UInt32) (h : offset.toNat % 4 = 0) :
    wordSize n ≤ offset.toNat ↔ n ≤ offset.toNat := by
  have hlt := offset.toNat_lt
  have hsize : UInt32.size = 2 ^ 32 := rfl
  simp only [wordSize]
  omega

/-! ## The two kinds of backend -/

namespace MappedWindow

variable {w : MappedWindow} {offset : UInt32}

/-- an access of a window is unaligned, past the end, to the word at the end, or allowed -/
theorem check_cases (w : MappedWindow) (offset : UInt32) :
    offset.toNat % 4 ≠ 0 ∧ w.check offset = .error (.invalidArgument (.unalignedRegister offset)) ∨
    offset.toNat % 4 = 0 ∧ w.extent ≤ offset.toNat ∧ w.check offset = .error (.outOfRange offset.toNat w.size) ∨
    Cut w.extent offset.toNat ∧ w.check offset = .error (.outOfRange offset.toNat w.extent) ∨
    offset.toNat % 4 = 0 ∧ offset.toNat + 4 ≤ w.extent ∧ w.check offset = .ok () := by
  by_cases haligned : offset.toNat % 4 = 0
  case neg => exact .inl ⟨haligned, w.check_of_unaligned haligned⟩
  by_cases hroom : offset.toNat + 4 ≤ w.extent
  case pos => exact .inr (.inr (.inr ⟨haligned, hroom, (w.check_eq_ok_iff offset).2 ⟨haligned, hroom⟩⟩))
  have hcheck := w.check_of_past haligned (Nat.lt_of_not_le hroom)
  by_cases hend : w.extent ≤ offset.toNat
  case pos => exact .inr (.inl ⟨haligned, hend, hcheck⟩)
  -- the word begins inside, so the size is one of 32 bits
  have hsize : w.size = w.extent := by
    have hlt := offset.toNat_lt
    have hword : UInt32.size = 2 ^ 32 := rfl
    simp only [size, wordSize]
    omega
  exact .inr (.inr (.inl ⟨⟨haligned, by omega, by omega⟩, hsize ▸ hcheck⟩))

/-- the error of an access names an offset before its limit just when the word is cut -/
theorem not_pastLimit_iff {e : Error} (h : w.check offset = .error e) :
    ¬ e.PastLimit ↔ Cut w.extent offset.toNat ∧ e = .outOfRange offset.toNat w.extent := by
  rcases w.check_cases offset with ⟨haligned, hc⟩ | ⟨haligned, hend, hc⟩ | ⟨hcut, hc⟩ | ⟨-, -, hc⟩
  · cases hc.symm.trans h
    exact iff_of_false (fun hno => hno trivial) fun hcut => haligned hcut.1.1
  · cases hc.symm.trans h
    have hpast : w.size ≤ offset.toNat := (wordSize_le_iff _ _ haligned).2 hend
    exact iff_of_false (fun hno => hno hpast) fun hcut => Nat.not_lt.2 hend hcut.1.2.1
  · cases hc.symm.trans h
    exact iff_of_true (Nat.not_le.2 hcut.2.1) ⟨hcut, rfl⟩
  · cases hc.symm.trans h

/-- an aligned offset before the end is refused as out of range just when its word is cut -/
theorem check_eq_outOfRange_iff (haligned : offset.toNat % 4 = 0) (hin : offset.toNat < w.size) :
    (∃ o l, w.check offset = .error (.outOfRange o l)) ↔ Cut w.extent offset.toNat := by
  have hbefore : offset.toNat < w.extent :=
    Nat.lt_of_not_le fun hend => Nat.not_le.2 hin ((wordSize_le_iff _ _ haligned).2 hend)
  rcases w.check_cases offset with ⟨hno, -⟩ | ⟨-, hend, -⟩ | ⟨hcut, hc⟩ | ⟨-, hroom, hc⟩
  · exact absurd haligned hno
  · omega
  · exact iff_of_true ⟨_, _, hc⟩ hcut
  · refine iff_of_false ?_ fun hcut => by have := hcut.2.2; omega
    rintro ⟨o, l, herror⟩
    cases hc.symm.trans herror

/-- an access of a window fails with an error before the limit just when the word is cut -/
theorem exists_not_pastLimit_iff (w : MappedWindow) (offset : UInt32) :
    (∃ e, w.check offset = .error e ∧ ¬ e.PastLimit) ↔ Cut w.extent offset.toNat := by
  constructor
  · rintro ⟨e, he, hno⟩
    exact ((not_pastLimit_iff he).1 hno).1
  · intro hcut
    obtain ⟨haligned, hin, hout⟩ := hcut
    rcases w.check_cases offset with ⟨hno, -⟩ | ⟨-, hend, -⟩ | ⟨-, hc⟩ | ⟨-, hroom, -⟩
    · exact absurd haligned hno
    · omega
    · exact ⟨_, hc, Nat.not_le.2 hin⟩
    · omega

/-- an access fails in its check only -/
theorem read_eq_error_iff {e : Error} : (read offset w).result = .error e ↔ w.check offset = .error e := by
  unfold read
  cases w.check offset <;> simp

theorem write_eq_error_iff {value : UInt32} {e : Error} :
    (write offset value w).result = .error e ↔ w.check offset = .error e := by
  unfold write
  cases w.check offset <;> simp

theorem extent_write (offset value : UInt32) (w : MappedWindow) : (write offset value w).state.extent = w.extent := by
  unfold write
  cases w.check offset <;> rfl

end MappedWindow

namespace RegisterFile

variable {f : RegisterFile}

/-- an offset that belongs to no register is at or past the size -/
theorem Access.size_le_of_none {a : Access} (h : f.registers[a.place]? = none) : f.size ≤ a.offset.toNat := by
  have hindex : f.registers.size ≤ a.offset.toNat / 4 := Array.getElem?_eq_none_iff.1 h
  simp only [size, wordSize, registerBytes]
  omega

/-- an access fails for its offset, which is then at or past the size, or because its register does not permit it -/
theorem Access.error_cases {a : Access} {e : Error} (h : (a.on f).result = .error e) :
    e = .outOfRange a.offset.toNat f.size ∧ f.size ≤ a.offset.toNat ∨ e = a.refusal f.bar := by
  cases hr : f.registers[a.place]? with
  | none =>
    rw [Access.on_of_none hr] at h
    exact .inl ⟨(Except.error.inj h).symm, Access.size_le_of_none hr⟩
  | some r =>
    by_cases hpermits : a.Permits r.mode
    · rw [Access.on_of_permitted hr hpermits] at h
      cases h
    · rw [Access.on_of_refused hr hpermits] at h
      exact .inr (Except.error.inj h).symm

/-- no access changes the number of registers -/
theorem Access.size_on (a : Access) (f : RegisterFile) : (a.on f).state.size = f.size := by
  cases hr : f.registers[a.place]? with
  | none => rw [Access.on_of_none hr]
  | some r =>
    by_cases hpermits : a.Permits r.mode
    · rw [Access.on_of_permitted hr hpermits]
      simp only [size, put, Array.size_setIfInBounds]
    · rw [Access.on_of_refused hr hpermits]

end RegisterFile

/-! ## Reasons for failure -/

/-- the reasons that accesses of windows of so many bytes give: an offset at or past its limit, or something that is no
matter of offsets, or the word that the end of a window cuts -/
def Gives (extents : List Nat) (e : Error) : Prop :=
  e.PastLimit ∨ ∃ extent ∈ extents, ∃ offset, Cut extent offset ∧ e = .outOfRange offset extent

/-- the two kinds of reason exclude each other -/
theorem Gives.not_pastLimit_iff {extents : List Nat} {e : Error} (h : Gives extents e) :
    ¬ e.PastLimit ↔ ∃ extent ∈ extents, ∃ offset, Cut extent offset ∧ e = .outOfRange offset extent := by
  constructor
  · exact fun hno => h.resolve_left hno
  · rintro ⟨extent, -, offset, hcut, rfl⟩
    exact Nat.not_le.2 hcut.2.1

theorem Gives.mono {extents more : List Nat} {e : Error} (h : Gives extents e) (hmore : extents ⊆ more) :
    Gives more e :=
  h.imp_right fun ⟨extent, hmem, hcut⟩ => ⟨extent, hmore hmem, hcut⟩

namespace Action

variable {σ V α β : Type} {view : σ → V} {extents : V → List Nat}

/-- a step that does not change the view of a state, and fails only for reasons that the view gives -/
def Faithful (view : σ → V) (extents : V → List Nat) (x : Action σ α) : Prop :=
  ∀ s, view (x s).state = view s ∧ ∀ e, (x s).result = .error e → Gives (extents (view s)) e

theorem faithful_pure (a : α) : Faithful view extents (Action.pure a) := fun _ => ⟨rfl, nofun⟩

theorem faithful_fail {e : Error} (he : e.PastLimit) : Faithful view extents (Action.fail (α := α) e) := by
  intro s
  refine ⟨rfl, ?_⟩
  rintro _ ⟨⟩
  exact .inl he

theorem Faithful.bind {x : Action σ α} {f : α → Action σ β} (hx : Faithful view extents x)
    (hf : ∀ a, Faithful view extents (f a)) : Faithful view extents (Action.bind x f) := by
  intro s
  obtain ⟨hview, herror⟩ := hx s
  cases h : (x s).result with
  | error e =>
    rw [bind_of_error h]
    refine ⟨hview, ?_⟩
    rintro _ ⟨⟩
    exact herror e h
  | ok a =>
    rw [bind_of_ok h]
    obtain ⟨hview', herror'⟩ := hf a (x s).state
    exact ⟨hview'.trans hview, fun e he => hview ▸ herror' e he⟩

theorem faithful_sequence {steps : List (Action σ Unit)} (h : ∀ x ∈ steps, Faithful view extents x) :
    Faithful view extents (sequence steps) := by
  induction steps with
  | nil => exact faithful_pure ()
  | cons x steps ih =>
    exact (h x List.mem_cons_self).bind fun _ => ih fun y hy => h y (List.mem_cons_of_mem x hy)

theorem error_of_bind_pure {x : Action σ α} {f : α → β} {s : σ} {e : Error} (h : (x s).result = .error e) :
    (Action.bind x (fun a => Action.pure (f a)) s).result = .error e := by
  rw [bind_of_error h]

end Action

/-! ## Backends -/

namespace BoardBackend

/-- bytes of the window, if there is one -/
def extent? : BoardBackend → Option Nat
  | simulated _ => none
  | mapped w | memoryBus w => some w.extent

/-- what no access changes: the bytes of the window, and the number of offsets served -/
def outline (s : BoardBackend) : Option Nat × Nat := (s.extent?, RegisterBackend.size s)

abbrev Faithful {α : Type} (x : Action BoardBackend α) : Prop := x.Faithful outline fun o => o.1.toList

/-- an access of simulated registers gives no other reason than that its offset is past the end -/
theorem gives_of_access {a : RegisterFile.Access} {f : RegisterFile} {e : Error} (h : (a.on f).result = .error e) :
    Gives [] e := by
  rcases RegisterFile.Access.error_cases h with ⟨rfl, hpast⟩ | rfl
  · exact .inl hpast
  · cases a <;> exact .inl trivial

/-- and one of a window no other than that, or that the word is cut -/
theorem gives_of_check {w : MappedWindow} {offset : UInt32} {e : Error} (h : w.check offset = .error e) :
    Gives [w.extent] e := by
  by_cases hpast : e.PastLimit
  · exact .inl hpast
  · exact .inr ⟨w.extent, List.mem_singleton_self _, offset.toNat, (MappedWindow.not_pastLimit_iff h).1 hpast⟩

/-- a step that is an access to simulated registers, and to a window fails in its check only -/
theorem faithful_act {α : Type} {onFile : Action RegisterFile α} {onWindow : Action MappedWindow α}
    (a : RegisterFile.Access) (answer : α → Option UInt32)
    (hfile : ∀ f, a.on f = Action.bind onFile (fun v => Action.pure (answer v)) f)
    (hextent : ∀ w, (onWindow w).state.extent = w.extent)
    (hcheck : ∀ w e, (onWindow w).result = .error e → w.check a.offset = .error e) :
    Faithful (act onFile onWindow) := by
  have hwindow : ∀ w : MappedWindow, (onWindow w).state.size = w.size := fun w => congrArg wordSize (hextent w)
  intro s
  cases s with
  | simulated f =>
    constructor
    · have hsize := a.size_on f
      rw [hfile, Action.bind_pure] at hsize
      exact congrArg (Prod.mk none) hsize
    · intro e he
      refine gives_of_access (a := a) (f := f) ?_
      rw [hfile]
      exact Action.error_of_bind_pure he
  | mapped w | memoryBus w =>
    exact ⟨congrArg₂ Prod.mk (congrArg some (hextent w)) (hwindow w), fun e he => gives_of_check (hcheck w e he)⟩

theorem faithful_read (offset : UInt32) : Faithful (RegisterBackend.read offset : Action BoardBackend UInt32) := by
  refine faithful_act (.read offset) some (fun _ => rfl) ?_ fun _ _ => MappedWindow.read_eq_error_iff.1
  exact fun w => congrArg MappedWindow.extent (MappedWindow.state_read offset w)

theorem faithful_write (offset value : UInt32) :
    Faithful (RegisterBackend.write offset value : Action BoardBackend Unit) :=
  faithful_act (.write offset value) (fun _ => none) (fun _ => rfl) (MappedWindow.extent_write offset value)
    fun _ _ => MappedWindow.write_eq_error_iff.1

theorem faithful_setMode (offset mode : UInt32) :
    Faithful (RegisterBackend.setMode offset mode : Action BoardBackend Unit) :=
  faithful_act (.setMode offset mode) (fun _ => none) (fun _ => rfl) (fun _ => rfl) fun _ _ he => nomatch he

/-! ### Aligned offsets inside the size -/

/-- the word at an offset is one that the end of the window cuts -/
def CutAt (s : BoardBackend) (offset : UInt32) : Prop := ∃ extent, s.extent? = some extent ∧ Cut extent offset.toNat

/-- inside the size, simulated registers never say that the offset is out of range -/
theorem not_outOfRange_of_access {α : Type} {onFile : Action RegisterFile α} {f : RegisterFile}
    (a : RegisterFile.Access) (answer : α → Option UInt32)
    (hfile : a.on f = Action.bind onFile (fun v => Action.pure (answer v)) f) (hin : a.offset.toNat < f.size) :
    ¬ ∃ o l, (onFile f).result = .error (.outOfRange o l) := by
  rintro ⟨o, l, herror⟩
  have haccess : (a.on f).result = .error (.outOfRange o l) := by
    rw [hfile]
    exact Action.error_of_bind_pure herror
  rcases RegisterFile.Access.error_cases haccess with ⟨-, hpast⟩ | hrefused
  · omega
  · exact RegisterFile.Access.refusal_ne_outOfRange _ _ _ _ hrefused.symm

/-- an access inside the size is out of range just when its word is cut -/
theorem outOfRange_iff_cutAt {α : Type} {onFile : Action RegisterFile α} {onWindow : Action MappedWindow α}
    (a : RegisterFile.Access) (answer : α → Option UInt32)
    (hfile : ∀ f, a.on f = Action.bind onFile (fun v => Action.pure (answer v)) f)
    (hcheck : ∀ w e, (onWindow w).result = .error e ↔ w.check a.offset = .error e)
    {s : BoardBackend} (haligned : a.offset.toNat % 4 = 0) (hin : a.offset.toNat < RegisterBackend.size s) :
    (∃ o l, (act onFile onWindow s).result = .error (.outOfRange o l)) ↔ s.CutAt a.offset := by
  have hwindow : ∀ w : MappedWindow, a.offset.toNat < w.size →
      ((∃ o l, (onWindow w).result = .error (.outOfRange o l)) ↔ Cut w.extent a.offset.toNat) := by
    intro w hw
    simp only [hcheck]
    exact MappedWindow.check_eq_outOfRange_iff haligned hw
  cases s with
  | simulated f => exact iff_of_false (not_outOfRange_of_access a answer (hfile f) hin) fun ⟨_, h, _⟩ => nomatch h
  | mapped w | memoryBus w => exact (hwindow w hin).trans ⟨fun hcut => ⟨_, rfl, hcut⟩, fun ⟨_, rfl, hcut⟩ => hcut⟩

theorem read_outOfRange_iff {s : BoardBackend} {offset : UInt32} (haligned : offset.toNat % 4 = 0)
    (hin : offset.toNat < RegisterBackend.size s) :
    (∃ o l, (RegisterBackend.read offset s).result = .error (.outOfRange o l)) ↔ s.CutAt offset :=
  outOfRange_iff_cutAt (.read offset) some (fun _ => rfl) (fun _ _ => MappedWindow.read_eq_error_iff) haligned hin

theorem write_outOfRange_iff {s : BoardBackend} {offset value : UInt32} (haligned : offset.toNat % 4 = 0)
    (hin : offset.toNat < RegisterBackend.size s) :
    (∃ o l, (RegisterBackend.write offset value s).result = .error (.outOfRange o l)) ↔ s.CutAt offset :=
  outOfRange_iff_cutAt (.write offset value) (fun _ => none) (fun _ => rfl)
    (fun _ _ => MappedWindow.write_eq_error_iff) haligned hin

theorem setMode_not_outOfRange {s : BoardBackend} {offset mode : UInt32}
    (hin : offset.toNat < RegisterBackend.size s) :
    ¬ ∃ o l, (RegisterBackend.setMode offset mode s).result = .error (.outOfRange o l) := by
  cases s with
  | simulated f => exact not_outOfRange_of_access (.setMode offset mode) (fun _ => none) rfl hin
  | mapped w | memoryBus w => exact fun ⟨_, _, h⟩ => nomatch h

end BoardBackend

/-! ## Banks -/

namespace RegisterBank

/-- bytes of the window behind a bank, if there is one -/
def extent? (b : RegisterBank BoardBackend) : Option Nat := b.backend.bind BoardBackend.extent?

def outline (b : RegisterBank BoardBackend) : Nat × Option (Option Nat × Nat) :=
  (b.size, b.backend.map BoardBackend.outline)

abbrev Faithful {α : Type} (x : Action (RegisterBank BoardBackend) α) : Prop :=
  x.Faithful outline fun o => (o.2.bind Prod.fst).toList

theorem faithful_onBackend {α : Type} {x : Action BoardBackend α} (hx : BoardBackend.Faithful x) :
    Faithful (onBackend x) := by
  intro b
  obtain ⟨bar, size, backend⟩ := b
  cases backend with
  | none =>
    refine ⟨rfl, ?_⟩
    rintro _ ⟨⟩
    exact .inl trivial
  | some s =>
    obtain ⟨houtline, herror⟩ := hx s
    exact ⟨congrArg (fun o => (size, some o)) houtline, herror⟩

/-- what a bank can be asked for with no guard -/
inductive RawAccess : ∀ {α : Type}, Action (RegisterBank BoardBackend) α → Prop
  | read (offset : UInt32) : RawAccess (read offset)
  | write (offset value : UInt32) : RawAccess (write offset value)
  | modify (offset clear set : UInt32) : RawAccess (modify offset clear set)
  | setMode (offset mode : UInt32) : RawAccess (setMode offset mode)
  | writeSequence (writes : List (UInt32 × UInt32)) : RawAccess (writeSequence writes)

theorem RawAccess.faithful {α : Type} {x : Action (RegisterBank BoardBackend) α} (h : RawAccess x) : Faithful x := by
  cases h with
  | read offset => exact faithful_onBackend (BoardBackend.faithful_read offset)
  | write offset value => exact faithful_onBackend (BoardBackend.faithful_write offset value)
  | setMode offset mode => exact faithful_onBackend (BoardBackend.faithful_setMode offset mode)
  | modify offset clear set =>
    apply faithful_onBackend
    refine (BoardBackend.faithful_read offset).bind fun old => ?_
    exact (BoardBackend.faithful_write offset _).bind fun _ => Action.faithful_pure _
  | writeSequence writes =>
    apply faithful_onBackend
    apply Action.faithful_sequence
    intro x hx
    obtain ⟨⟨offset, value⟩, -, rfl⟩ := List.mem_map.1 hx
    exact BoardBackend.faithful_write offset value

end RegisterBank

/-! ## Tables -/

namespace RegisterTable

variable {t : RegisterTable BoardBackend}

/-- bytes of the windows behind the banks -/
def extents (t : RegisterTable BoardBackend) : List Nat := t.banks.filterMap RegisterBank.extent?

def outline (t : RegisterTable BoardBackend) : List (Nat × Option (Option Nat × Nat)) :=
  t.banks.map RegisterBank.outline

abbrev Faithful {α : Type} (x : Action (RegisterTable BoardBackend) α) : Prop :=
  x.Faithful outline fun os => os.filterMap fun o => o.2.bind Prod.fst

theorem extents_eq (t : RegisterTable BoardBackend) : t.extents = t.outline.filterMap fun o => o.2.bind Prod.fst := by
  unfold extents outline
  rw [List.filterMap_map]
  congr 1
  funext b
  simp only [RegisterBank.extent?, Function.comp, RegisterBank.outline]
  cases b.backend <;> rfl

/-- a step on one bank of a table -/
theorem faithful_setBank {α : Type} {x : Action (RegisterBank BoardBackend) α} (hx : RegisterBank.Faithful x)
    {bar : Nat} {b : RegisterBank BoardBackend} (hb : t.banks[bar]? = some b) :
    (Action.on b (t.setBank bar) x).state.outline = t.outline ∧
      ∀ e, (Action.on b (t.setBank bar) x).result = .error e →
        Gives (t.outline.filterMap fun o => o.2.bind Prod.fst) e := by
  obtain ⟨houtline, herror⟩ := hx b
  have hplace : t.outline[bar]? = some b.outline := by
    unfold outline
    rw [List.getElem?_map, hb, Option.map_some]
  constructor
  · -- the bank comes back with the outline that stands in its place already
    obtain ⟨hlt, hget⟩ := List.getElem?_eq_some_iff.1 hplace
    simp only [Action.on, setBank, outline, List.map_set, houtline]
    change t.outline.set bar b.outline = t.outline
    rw [← hget]
    exact List.set_getElem_self hlt
  · intro e he
    refine (herror e he).mono ?_
    intro extent hextent
    exact List.mem_filterMap.2 ⟨b.outline, List.mem_of_getElem? hplace, Option.mem_toList.1 hextent⟩

/-- the guard names an offset at or past the limit, whenever it names one -/
theorem pastLimit_of_checkAccess {bar : Nat} {kind : AccessKind} {offset : UInt32} {e : Error}
    (h : t.checkAccess bar kind offset = .error e) : e.PastLimit := by
  rcases t.refuses_or_admits bar kind offset with ⟨⟨e', hrefuses, -⟩, -⟩ | ⟨-, b, s, hadmits⟩
  · cases (checkAccess_of_refuses hrefuses).symm.trans h
    cases hrefuses with
    | pastEnd _ _ _ hsize => exact hsize
    | noBar _ | nothingBehind _ _ | noRight _ _ _ => trivial
  · cases (checkAccess_of_admits hadmits).symm.trans h

theorem faithful_guarded {α : Type} {x : Action (RegisterBank BoardBackend) α} (hx : RegisterBank.Faithful x)
    (bar : Nat) (kind : AccessKind) (offset : UInt32) : Faithful (guarded bar kind offset x) := by
  intro t
  rcases t.refuses_or_admits bar kind offset with ⟨⟨e, hrefuses, -⟩, -⟩ | ⟨-, b, s, hadmits⟩
  · rw [guarded_of_refuses x hrefuses]
    refine ⟨rfl, ?_⟩
    rintro _ ⟨⟩
    exact .inl (pastLimit_of_checkAccess (checkAccess_of_refuses hrefuses))
  · simp only [guarded, checkAccess_of_admits hadmits]
    exact faithful_setBank hx hadmits.bank

theorem faithful_userAccess {α : Type} {x : Action (RegisterTable BoardBackend) α} (h : UserAccess x) : Faithful x := by
  have hread : ∀ bar offset, Faithful (read (β := BoardBackend) bar offset) := fun bar offset =>
    faithful_guarded (RegisterBank.RawAccess.read offset).faithful bar .read offset
  cases h with
  | read bar offset => exact hread bar offset
  | write bar offset value =>
    exact faithful_guarded (RegisterBank.RawAccess.write offset value).faithful bar .write offset
  | modify bar offset clear set =>
    exact faithful_guarded (RegisterBank.RawAccess.modify offset clear set).faithful bar .modify offset
  | setMode bar offset mode =>
    exact faithful_guarded (RegisterBank.RawAccess.setMode offset mode).faithful bar .event offset
  | readRange bar offset count =>
    apply readRange_induction (P := Faithful) Action.faithful_pure ?past Action.Faithful.bind (hread bar)
    case past =>
      -- the limit is the last 32-bit offset, and the place is past it
      intro _ place hplace
      exact Action.faithful_fail (Nat.le_trans (Nat.sub_le _ _) hplace)

theorem faithful_onBank? {α : Type} {x : Action (RegisterBank BoardBackend) α} (hx : RegisterBank.RawAccess x)
    {bar : Nat} {o : Outcome (RegisterTable BoardBackend) α} (ho : t.onBank? bar x = some o) :
    o.state.outline = t.outline ∧ ∀ e, o.result = .error e → Gives t.extents e := by
  obtain ⟨b, hb, rfl⟩ := Option.map_eq_some_iff.1 ho
  rw [extents_eq]
  exact faithful_setBank hx.faithful hb

/-! ## The tables there can be -/

/-- a table made of banks that are the size their backends tell, and whatever accesses make of it -/
inductive Reached : RegisterTable BoardBackend → Prop
  | made (mode : Mode) (banks : List (RegisterBank BoardBackend)) :
      (∀ b ∈ banks, ∃ bar backend, b = .ofBackend bar backend) → Reached (ofBanks mode banks)
  | accessed {α : Type} {x : Action (RegisterTable BoardBackend) α} {t : RegisterTable BoardBackend} :
      Reached t → UserAccess x → Reached (x t).state
  | raw {α : Type} {x : Action (RegisterBank BoardBackend) α} {t : RegisterTable BoardBackend} {bar : Nat}
      {o : Outcome (RegisterTable BoardBackend) α} :
      Reached t → RegisterBank.RawAccess x → t.onBank? bar x = some o → Reached o.state

/-- the guard compares with the sizes of the backends themselves, by now as at the start -/
theorem Reached.sized (h : t.Reached) : ∀ o ∈ t.outline, ∀ s, o.2 = some s → o.1 = s.2 := by
  induction h with
  | made mode banks hbanks =>
    intro o ho s hs
    obtain ⟨b, hb, rfl⟩ := List.mem_map.1 ho
    rcases List.mem_append.1 hb with hb | hb
    · obtain ⟨bar, backend, rfl⟩ := hbanks b hb
      cases backend with
      | none => cases hs
      | some backend =>
        cases hs
        rfl
    · obtain ⟨i, -, rfl⟩ := List.mem_map.1 hb
      cases hs
  | accessed _ hx ih =>
    rw [(faithful_userAccess hx _).1]
    exact ih
  | raw _ hx ho ih =>
    rw [(faithful_onBank? hx ho).1]
    exact ih

/-- what the guard has accepted is inside the backend -/
theorem Reached.inside (h : t.Reached) {bar : Nat} {kind : AccessKind} {offset : UInt32}
    {b : RegisterBank BoardBackend} {s : BoardBackend} (hb : t.checkAccess bar kind offset = .ok b)
    (hs : b.backend = some s) : offset.toNat < RegisterBackend.size s := by
  rcases t.refuses_or_admits bar kind offset with ⟨⟨e, hrefuses, -⟩, -⟩ | ⟨-, b', s', hadmits⟩
  · cases (checkAccess_of_refuses hrefuses).symm.trans hb
  · cases (checkAccess_of_admits hadmits).symm.trans hb
    have houtline : b.outline ∈ t.outline := List.mem_map.2 ⟨b, List.mem_of_getElem? hadmits.bank, rfl⟩
    have hsize : b.size = RegisterBackend.size s :=
      h.sized _ houtline s.outline (by rw [RegisterBank.outline, hs, Option.map_some])
    exact hsize ▸ hadmits.inside

end RegisterTable

/-! ## The simulator's memory -/

/-- a transfer that leaves the window names an offset past its end; the bytes of a window are counted by 64 bits -/
theorem OwnedMemory.pastLimit_of_transfer {m : OwnedMemory}
    (hsize : ∀ w, m.window = some w → w.bytes.size < UInt64.size)
    {caller : Cookie} {direction : Direction} {offset : Nat} {buffer : Array UInt8} {e : Error}
    (h : (m.transfer caller direction offset buffer).1 = .error e) : e.PastLimit := by
  unfold transfer exchange at h
  cases hw : m.window with
  | none =>
    rw [hw] at h
    cases h
    trivial
  | some w =>
    rw [hw] at h
    dsimp only at h
    split at h
    · cases h
      trivial
    · split at h
      · rename_i hpast
        cases h
        have hbound := hsize w hw
        have hend := (spanEnd?_eq_none_iff _ _ _).1 hpast
        change w.bytes.size ≤ min (offset + buffer.size) (UInt64.size - 1)
        omega
      · cases direction <;> cases h

namespace RegisterTable

/-- **An error about an offset out of range names one at or past its limit, except at a cut word.** For every table of
simulated registers of any number and windows of any size, after any accesses:
- a guarded access of any kind, a range included, and a raw one fails for an offset before its limit just when it comes
to the word that the end of a window cuts; the error then names that word and the bytes of the window;
- of an aligned offset that the guard has accepted, a backend says that it is out of range just when it is that of such
a word, and of a mode it never says so;
- the window itself fails like that just when the word is cut, which takes a number of bytes that is no multiple of 4;
- the simulator's memory never does. -/
theorem range_errors {t : RegisterTable BoardBackend} (h : t.Reached) :
    (∀ {α : Type} (x : Action (RegisterTable BoardBackend) α), UserAccess x → ∀ e, (x t).result = .error e →
      (¬ e.PastLimit ↔ ∃ extent ∈ t.extents, ∃ offset, Cut extent offset ∧ e = .outOfRange offset extent)) ∧
    (∀ {α : Type} (bar : Nat) (x : Action (RegisterBank BoardBackend) α) (o : Outcome (RegisterTable BoardBackend) α),
      RegisterBank.RawAccess x → t.onBank? bar x = some o → ∀ e, o.result = .error e →
      (¬ e.PastLimit ↔ ∃ extent ∈ t.extents, ∃ offset, Cut extent offset ∧ e = .outOfRange offset extent)) ∧
    (∀ bar kind offset b s, t.checkAccess bar kind offset = .ok b → b.backend = some s → offset.toNat % 4 = 0 →
      ((∃ o l, (RegisterBackend.read offset s).result = .error (.outOfRange o l)) ↔ s.CutAt offset) ∧
      (∀ value, (∃ o l, (RegisterBackend.write offset value s).result = .error (.outOfRange o l)) ↔ s.CutAt offset) ∧
      ∀ mode, ¬ ∃ o l, (RegisterBackend.setMode offset mode s).result = .error (.outOfRange o l)) ∧
    (∀ (w : MappedWindow) (offset value : UInt32),
      ((∃ e, (MappedWindow.read offset w).result = .error e ∧ ¬ e.PastLimit) ↔ Cut w.extent offset.toNat) ∧
      ((∃ e, (MappedWindow.write offset value w).result = .error e ∧ ¬ e.PastLimit) ↔ Cut w.extent offset.toNat)) ∧
    (∀ extent offset, Cut extent offset → extent % 4 ≠ 0) ∧
    ∀ (m : OwnedMemory) (caller : Cookie) (direction : Direction) (offset : Nat) (buffer : Array UInt8),
      (∀ w, m.window = some w → w.bytes.size < UInt64.size) →
      ∀ e, (m.transfer caller direction offset buffer).1 = .error e → e.PastLimit := by
  refine ⟨?_, ?_, ?_, ?_, ?_, ?_⟩
  · intro α x hx e he
    have hgives : Gives t.extents e := by
      rw [extents_eq]
      exact (faithful_userAccess hx t).2 e he
    exact hgives.not_pastLimit_iff
  · intro α bar x o hx ho e he
    exact ((faithful_onBank? hx ho).2 e he).not_pastLimit_iff
  · intro bar kind offset b s hb hs haligned
    have hin := h.inside hb hs
    exact ⟨BoardBackend.read_outOfRange_iff haligned hin, fun value => BoardBackend.write_outOfRange_iff haligned hin,
      fun mode => BoardBackend.setMode_not_outOfRange hin⟩
  · intro w offset value
    simp only [MappedWindow.read_eq_error_iff, MappedWindow.write_eq_error_iff]
    exact ⟨w.exists_not_pastLimit_iff offset, w.exists_not_pastLimit_iff offset⟩
  · exact fun extent offset hcut => ((cut_iff extent offset).1 hcut).1
  · exact fun m caller direction offset buffer hsize e he => OwnedMemory.pastLimit_of_transfer hsize he

/-- a PCIe board whose BAR 0 has six bytes -/
def sixByteFiles : HostFiles := fun path =>
  if path = BoardBackend.resourcePath "0000:01:00.0" 0 then some (.file (.zeros 6)) else none

def sixByteWindow : MappedWindow where
  path := BoardBackend.resourcePath "0000:01:00.0" 0
  start := 0
  extent := 6
  file := .zeros 6

def sixByteTable : RegisterTable BoardBackend := ofBanks .pcie [.ofBackend 0 (some (.mapped sixByteWindow))]

theorem reached_sixByteTable : sixByteTable.Reached :=
  .made .pcie _ fun _ hb => ⟨0, _, List.mem_singleton.1 hb⟩

/-- a range names the word that it comes to, of six bytes; a write to it fails as well, and a change of mode does not -/
theorem range_errors_sixByteTable :
    (readRange 0 0 2 sixByteTable).result = .error (.outOfRange 4 6) ∧ ¬ (Error.outOfRange 4 6).PastLimit ∧
    (∃ o l, (RegisterBackend.write 4 9 (BoardBackend.mapped sixByteWindow)).result = .error (.outOfRange o l)) ∧
    ¬ ∃ o l, (RegisterBackend.setMode 4 9 (BoardBackend.mapped sixByteWindow)).result = .error (.outOfRange o l) := by
  obtain ⟨huser, -, haccepted, -⟩ := range_errors reached_sixByteTable
  have hrange : (readRange 0 0 2 sixByteTable).result = .error (.outOfRange 4 6) := by rfl
  have hcut : Cut 6 4 := by decide
  obtain ⟨-, hwrite, hmode⟩ := haccepted 0 .read 4 _ (.mapped sixByteWindow) rfl rfl rfl
  exact ⟨hrange, (huser _ (.readRange 0 0 2) _ hrange).2 ⟨6, List.mem_singleton_self 6, 4, hcut, rfl⟩,
    (hwrite 9).2 ⟨6, rfl, hcut⟩, hmode 9⟩

/-- the guard accepts the aligned offset 4 of six bytes, and the window then says that 4 is past the limit 6 -/
theorem cut_word_refused :
    BoardBackend.select sixByteFiles (.pcie "0000:01:00.0" 32) 0 = .ok (some (.mapped sixByteWindow)) ∧
    sixByteTable.Reached ∧
    (∃ b, sixByteTable.checkAccess 0 .read 4 = .ok b ∧ b.size = 6) ∧
    (read 0 4 sixByteTable).result = .error (.outOfRange 4 6) ∧ ¬ (Error.outOfRange 4 6).PastLimit :=
  ⟨rfl, reached_sixByteTable, ⟨_, rfl, rfl⟩, rfl, Nat.not_le.2 (by decide : 4 < 6)⟩

end RegisterTable
end BoardDriver
