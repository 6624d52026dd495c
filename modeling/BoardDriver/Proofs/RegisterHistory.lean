/-
A simulated BAR through any history of accesses.

What a register holds can be told from the accesses alone. Its mode is the one it was last given; its value is that of
the last write to it that succeeded, and whether a write succeeded hangs on the mode that the register had by then. So
values, modes and events are read off the history here without looking at any registers, and compared with what the
registers do. Four offsets share each register, and an access may use any of them.

- `RegisterFile.Access`: a read, a write or a change of mode, at any offset;
- `registerAfter`, `Access.Succeeds`, `Access.reported`: what the accesses alone tell;
- `Access.on_of_none`, `Access.on_of_refused`, `Access.on_of_permitted`: the three outcomes of one access;
- `Told.snoc`, `told_after`: what an access, and a history of them, does to the registers;
- `accesses_told`: what is answered, reported and left behind, after any history.
-/
import Mathlib.Data.List.Induction
import BoardDriver.Register.RegisterFile

namespace BoardDriver

theorem Register.allows_iff (r : Register) (bit : UInt32) : r.allows bit = true ↔ r.mode &&& bit ≠ 0 := bne_iff_ne

namespace RegisterFile

inductive Access where
  | read (offset : UInt32)
  | write (offset value : UInt32)
  | setMode (offset mode : UInt32)
  deriving DecidableEq, Repr

/-! ## What the accesses alone tell -/

namespace Access

def offset : Access → UInt32
  | read offset | write offset _ | setMode offset _ => offset

def place (a : Access) : Nat := a.offset.toNat / 4

/-- whether a register of this mode lets it through; a mode can always be changed -/
def Permits (mode : UInt32) : Access → Prop
  | read _ => mode &&& RegisterMode.readable ≠ 0
  | write .. => mode &&& RegisterMode.writable ≠ 0
  | setMode .. => True

instance (mode : UInt32) (a : Access) : Decidable (a.Permits mode) :=
  match a with
  | read _ => inferInstanceAs (Decidable (_ ≠ _))
  | write .. => inferInstanceAs (Decidable (_ ≠ _))
  | setMode .. => inferInstanceAs (Decidable True)

/-- the event that it raises when it succeeds, if the mode of its register asks for it -/
def events (bar : Nat) (r : Register) : Access → List Event
  | read offset =>
    if r.mode &&& RegisterMode.readEvent ≠ 0 then
      [.ofPayload (.registerRead { bar := bar, offset := offset, value := r.value })]
    else []
  | write offset value =>
    if r.mode &&& RegisterMode.writeEvent ≠ 0 then
      [.ofPayload (.registerWrite { bar := bar, offset := offset, value := value })]
    else []
  | setMode .. => []

/-- the mode that it gives to a register -/
def modeFor? (k : Nat) (a : Access) : Option UInt32 :=
  match a with
  | setMode _ mode => if a.place = k then some mode else none
  | _ => none

end Access

/-- the mode of a register after a history: the one it was last given -/
def modeAfter (history : List Access) (k : Nat) : UInt32 :=
  (history.filterMap (Access.modeFor? k)).getLast?.getD RegisterMode.initial

/-- whether an access to one of `count` registers succeeds after a history -/
def Access.Succeeds (count : Nat) (history : List Access) (a : Access) : Prop :=
  a.place < count ∧ a.Permits (modeAfter history a.place)

instance (count : Nat) (history : List Access) (a : Access) : Decidable (a.Succeeds count history) :=
  inferInstanceAs (Decidable (_ ∧ _))

/-- the value that it puts into a register, after the accesses before it -/
def Access.valueFor? (count k : Nat) (before : List Access) (a : Access) : Option UInt32 :=
  match a with
  | .write _ value => if a.place = k ∧ a.Succeeds count before then some value else none
  | _ => none

/-- each access of a history, with those before it -/
def momentsFrom (before : List Access) : List Access → List (List Access × Access)
  | [] => []
  | a :: later => (before, a) :: momentsFrom (before ++ [a]) later

/-- the value of a register after a history: that of the last write to it that succeeded -/
def valueAfter (count : Nat) (history : List Access) (k : Nat) : UInt32 :=
  ((momentsFrom [] history).filterMap fun (before, a) => a.valueFor? count k before).getLast?.getD 0

def registerAfter (count : Nat) (history : List Access) (k : Nat) : Register :=
  { value := valueAfter count history k, mode := modeAfter history k }

/-- what an access reports after a history -/
def Access.reported (bar count : Nat) (history : List Access) (a : Access) : List Event :=
  if a.Succeeds count history then a.events bar (registerAfter count history a.place) else []

theorem momentsFrom_snoc (before history : List Access) (a : Access) :
    momentsFrom before (history ++ [a]) = momentsFrom before history ++ [(before ++ history, a)] := by
  induction history generalizing before with
  | nil => simp [momentsFrom]
  | cons first history ih => simp [momentsFrom, ih]

theorem modeAfter_snoc (history : List Access) (a : Access) (k : Nat) :
    modeAfter (history ++ [a]) k = (a.modeFor? k).getD (modeAfter history k) := by
  unfold modeAfter
  rw [List.filterMap_append, List.getLast?_append]
  cases h : a.modeFor? k <;> simp [h]

theorem valueAfter_snoc (count : Nat) (history : List Access) (a : Access) (k : Nat) :
    valueAfter count (history ++ [a]) k = (a.valueFor? count k history).getD (valueAfter count history k) := by
  unfold valueAfter
  rw [momentsFrom_snoc, List.nil_append, List.filterMap_append, List.getLast?_append]
  cases h : a.valueFor? count k history <;> simp [h]

/-! ## One access -/

namespace Access

/-- carries it out; the answer is a value if it has one -/
def on : Access → Action RegisterFile (Option UInt32)
  | read offset => Action.bind (RegisterFile.read offset) fun value => Action.pure (some value)
  | write offset value => Action.bind (RegisterFile.write offset value) fun _ => Action.pure none
  | setMode offset mode => Action.bind (RegisterFile.setMode offset mode) fun _ => Action.pure none

def applied (r : Register) : Access → Register
  | read _ => r
  | write _ value => { r with value := value }
  | setMode _ mode => { r with mode := mode }

/-- what it is answered when it succeeds -/
def answer (r : Register) : Access → Option UInt32
  | read _ => some r.value
  | write .. | setMode .. => none

/-- the error of an access that its register does not permit -/
def refusal (bar : Nat) (a : Access) : Error :=
  match a with
  | read offset => .backend (.notReadable bar offset)
  | write offset _ | setMode offset _ => .backend (.notWritable bar offset)

variable {f : RegisterFile} {a : Access} {r : Register}

/-- past the last register -/
theorem on_of_none (h : f.registers[a.place]? = none) :
    a.on f = { result := .error (.outOfRange a.offset.toNat f.size), state := f } := by
  have hregister : f.register a.offset = .error (.outOfRange a.offset.toNat f.size) := by
    have hindex : f.registers[indexOf a.offset]? = none := h
    simp only [register, hindex]
  cases a with
  | read offset | write offset value | setMode offset mode =>
    simp only [Access.offset] at hregister
    simp only [on, Action.bind, RegisterFile.read, RegisterFile.write, RegisterFile.setMode, hregister, Access.offset]

theorem register_eq_ok (h : f.registers[a.place]? = some r) : f.register a.offset = .ok r := by
  have hindex : f.registers[indexOf a.offset]? = some r := h
  simp only [register, hindex]

theorem put_same (h : f.registers[a.place]? = some r) : f.put a.offset r = f := by
  obtain ⟨hbound, rfl⟩ := Array.getElem?_eq_some_iff.1 h
  have hregisters : f.registers.setIfInBounds (indexOf a.offset) f.registers[a.place] = f.registers := by
    rw [Array.setIfInBounds_def, dif_pos (show indexOf a.offset < f.registers.size from hbound)]
    exact Array.set_getElem_self hbound
  simp only [put, hregisters]

/-- to a register that does not permit it -/
theorem on_of_refused (h : f.registers[a.place]? = some r) (hno : ¬ a.Permits r.mode) :
    a.on f = { result := .error (a.refusal f.bar), state := f } := by
  have hregister := register_eq_ok h
  cases a with
  | read offset =>
    have hallows : ¬ r.allows RegisterMode.readable = true := mt (r.allows_iff _).1 hno
    have hread : RegisterFile.read offset f = { result := .error (refusal f.bar (read offset)), state := f } := by
      simp only [RegisterFile.read, show f.register offset = .ok r from hregister, if_neg hallows, refusal]
    simp only [on, Action.bind, hread]
  | write offset value =>
    have hallows : ¬ r.allows RegisterMode.writable = true := mt (r.allows_iff _).1 hno
    have hwrite : RegisterFile.write offset value f =
        { result := .error (refusal f.bar (write offset value)), state := f } := by
      simp only [RegisterFile.write, show f.register offset = .ok r from hregister, if_neg hallows, refusal]
    simp only [on, Action.bind, hwrite]
  | setMode offset mode => exact absurd trivial hno

/-- to a register that permits it -/
theorem on_of_permitted (h : f.registers[a.place]? = some r) (hyes : a.Permits r.mode) :
    a.on f = { result := .ok (a.answer r)
               state := f.put a.offset (a.applied r)
               events := a.events f.bar r } := by
  have hregister := register_eq_ok h
  cases a with
  | read offset =>
    have hbit : r.mode &&& RegisterMode.readable ≠ 0 := hyes
    have hread : RegisterFile.read offset f =
        { result := .ok r.value, state := f, events := (read offset).events f.bar r } := by
      simp only [RegisterFile.read, show f.register offset = .ok r from hregister, Register.allows_iff,
        if_pos hbit, events]
    simp only [on, Action.bind, Action.pure, hread, answer, applied, List.append_nil, put_same h]
  | write offset value =>
    have hbit : r.mode &&& RegisterMode.writable ≠ 0 := hyes
    have hwrite : RegisterFile.write offset value f =
        { result := .ok (), state := f.put offset { r with value := value },
          events := (write offset value).events f.bar r } := by
      simp only [RegisterFile.write, show f.register offset = .ok r from hregister, Register.allows_iff,
        if_pos hbit, events]
    simp only [on, Action.bind, Action.pure, hwrite, answer, applied, List.append_nil, Access.offset]
  | setMode offset mode =>
    simp only [on, Action.bind, Action.pure, RegisterFile.setMode, show f.register offset = .ok r from hregister,
      answer, applied, events, List.append_nil, Access.offset]

/-- a refusal is not that of an offset past the last register -/
theorem refusal_ne_outOfRange (bar : Nat) (a : Access) (offset limit : Nat) :
    a.refusal bar ≠ .outOfRange offset limit := by
  cases a <;> exact Error.noConfusion

end Access

/-! ## What one more access adds to a history -/

section History

variable {count : Nat} {history : List Access} {a : Access} {k : Nat}

theorem registerAfter_nil (count k : Nat) : registerAfter count [] k = {} := rfl

/-- one to another register adds nothing -/
theorem registerAfter_snoc_of_ne (hne : a.place ≠ k) :
    registerAfter count (history ++ [a]) k = registerAfter count history k := by
  have hmode : a.modeFor? k = none := by cases a <;> simp [Access.modeFor?, hne]
  have hvalue : a.valueFor? count k history = none := by cases a <;> simp [Access.valueFor?, hne]
  simp only [registerAfter, modeAfter_snoc, valueAfter_snoc, hmode, hvalue, Option.getD_none]

/-- one that its register does not permit adds nothing -/
theorem registerAfter_snoc_of_refused (hno : ¬ a.Permits (modeAfter history a.place)) :
    registerAfter count (history ++ [a]) k = registerAfter count history k := by
  have hmode : a.modeFor? k = none := by
    cases a with
    | read offset | write offset value => rfl
    | setMode offset mode => exact absurd trivial hno
  have hvalue : a.valueFor? count k history = none := by
    cases a with
    | read offset | setMode offset mode => rfl
    | write offset value => exact if_neg fun h => hno h.2.2
  simp only [registerAfter, modeAfter_snoc, valueAfter_snoc, hmode, hvalue, Option.getD_none]

/-- one that succeeds is applied to its register -/
theorem registerAfter_snoc_of_succeeds (h : a.Succeeds count history) :
    registerAfter count (history ++ [a]) a.place = a.applied (registerAfter count history a.place) := by
  cases a with
  | read offset => simp [registerAfter, modeAfter_snoc, valueAfter_snoc, Access.modeFor?, Access.valueFor?,
      Access.applied]
  | write offset value => simp [registerAfter, modeAfter_snoc, valueAfter_snoc, Access.modeFor?, Access.valueFor?,
      Access.applied, h]
  | setMode offset mode => simp [registerAfter, modeAfter_snoc, valueAfter_snoc, Access.modeFor?, Access.valueFor?,
      Access.applied]

end History

/-! ## Any history -/

def after (f : RegisterFile) (history : List Access) : RegisterFile :=
  history.foldl (fun f a => (a.on f).state) f

/-- the events that a history of accesses raises, in order -/
def raised (f : RegisterFile) : List Access → List Event
  | [] => []
  | a :: later => (a.on f).events ++ (a.on f).state.raised later

theorem after_snoc (f : RegisterFile) (history : List Access) (a : Access) :
    f.after (history ++ [a]) = (a.on (f.after history)).state := by
  simp only [after, List.foldl_append, List.foldl_cons, List.foldl_nil]

theorem raised_snoc (f : RegisterFile) (history : List Access) (a : Access) :
    f.raised (history ++ [a]) = f.raised history ++ (a.on (f.after history)).events := by
  induction history generalizing f with
  | nil => simp [raised, after]
  | cons first history ih => simp only [List.cons_append, raised, ih, List.append_assoc, after, List.foldl_cons]

/-- registers that hold what the accesses alone tell -/
structure Told (bar count : Nat) (history : List Access) (f : RegisterFile) : Prop where
  bar_eq : f.bar = wordSize bar
  size_eq : f.registers.size = count
  registers : ∀ k < count, f.registers[k]? = some (registerAfter count history k)

/-- what an access comes to after a history, told from the accesses alone -/
structure Answered (bar count : Nat) (history : List Access) (a : Access) (f : RegisterFile)
    (o : Outcome RegisterFile (Option UInt32)) : Prop where
  outOfRange_iff : (∃ offset limit, o.result = .error (.outOfRange offset limit)) ↔ count ≤ a.place
  outOfRange : count ≤ a.place →
    o.result = .error (.outOfRange a.offset.toNat (wordSize (count * registerBytes)))
  refused : a.place < count → ¬ a.Permits (modeAfter history a.place) → o.result = .error (a.refusal (wordSize bar))
  ok_iff : (∃ answer, o.result = .ok answer) ↔ a.Succeeds count history
  ok : a.Succeeds count history → o.result = .ok (a.answer (registerAfter count history a.place))
  applied : a.Succeeds count history → ∀ k, o.state.registers[k]? =
    if k = a.place then some (a.applied (registerAfter count history k)) else f.registers[k]?
  unchanged : ¬ a.Succeeds count history → o.state = f
  events : o.events = a.reported (wordSize bar) count history

section Told

variable {bar count : Nat} {history : List Access} {f : RegisterFile}

theorem told_fresh (bar count : Nat) : Told bar count [] (fresh bar count) where
  bar_eq := rfl
  size_eq := Array.size_replicate
  registers k hk := by
    rw [registerAfter_nil, fresh, Array.getElem?_replicate, if_pos hk]

/-- an access that fails changes nothing and reports nothing, whatever its error says -/
theorem Answered.of_fails {a : Access} {e : Error} (hfails : ¬ a.Succeeds count history)
    (hrange : (∃ offset limit, e = .outOfRange offset limit) ↔ count ≤ a.place)
    (hout : count ≤ a.place → e = .outOfRange a.offset.toNat (wordSize (count * registerBytes)))
    (hrefused : a.place < count → e = a.refusal (wordSize bar)) :
    Answered bar count history a f { result := .error e, state := f } where
  outOfRange_iff := by simpa only [Except.error.injEq] using hrange
  outOfRange hplace := congrArg Except.error (hout hplace)
  refused hplace _ := congrArg Except.error (hrefused hplace)
  ok_iff := ⟨fun ⟨_, hok⟩ => (nomatch hok), fun hs => absurd hs hfails⟩
  ok hs := absurd hs hfails
  applied hs := absurd hs hfails
  unchanged _ := rfl
  events := (if_neg hfails).symm

/-- an access to registers that hold what is told comes to what is told -/
theorem Told.answered (h : Told bar count history f) (a : Access) : Answered bar count history a f (a.on f) := by
  by_cases hplace : a.place < count
  case neg =>
    have hout : count ≤ a.place := Nat.le_of_not_lt hplace
    rw [Access.on_of_none (Array.getElem?_eq_none_iff.2 (h.size_eq ▸ hout))]
    refine .of_fails (fun hs => hplace hs.1) (iff_of_true ⟨_, _, rfl⟩ hout) ?_ fun hin => absurd hin hplace
    intro _
    rw [size, h.size_eq]
  have hregister := h.registers _ hplace
  by_cases hpermits : a.Permits (modeAfter history a.place)
  case neg =>
    rw [Access.on_of_refused hregister hpermits, h.bar_eq]
    refine .of_fails (fun hs => hpermits hs.2) ?_ (fun hout => absurd hplace (Nat.not_lt.2 hout)) fun _ => rfl
    refine iff_of_false ?_ (Nat.not_le.2 hplace)
    rintro ⟨offset, limit, he⟩
    exact a.refusal_ne_outOfRange _ _ _ he
  have hsucceeds : a.Succeeds count history := ⟨hplace, hpermits⟩
  rw [Access.on_of_permitted hregister hpermits, h.bar_eq]
  exact {
    outOfRange_iff := ⟨fun ⟨_, _, herror⟩ => (nomatch herror), fun hout => absurd hplace (by omega)⟩
    outOfRange := fun hout => absurd hplace (by omega)
    refused := fun _ hno => absurd hpermits hno
    ok_iff := ⟨fun _ => hsucceeds, fun _ => ⟨_, rfl⟩⟩
    ok := fun _ => rfl
    applied := by
      intro _ k
      simp only [put, Array.getElem?_setIfInBounds, h.size_eq]
      by_cases hk : k = a.place
      case pos =>
        subst hk
        simp only [show indexOf a.offset = a.place from rfl, if_pos, hplace]
      case neg => rw [if_neg (show ¬ indexOf a.offset = k from fun he => hk he.symm), if_neg hk]
    unchanged := fun hno => absurd hsucceeds hno
    events := (if_pos hsucceeds).symm }

/-- one access more -/
theorem Told.snoc (h : Told bar count history f) (a : Access) : Told bar count (history ++ [a]) (a.on f).state := by
  have hanswered := h.answered a
  by_cases hsucceeds : a.Succeeds count history
  case neg =>
    rw [hanswered.unchanged hsucceeds]
    refine ⟨h.bar_eq, h.size_eq, ?_⟩
    intro k hk
    rw [h.registers k hk]
    by_cases hplace : a.place < count
    case pos => rw [registerAfter_snoc_of_refused fun hpermits => hsucceeds ⟨hplace, hpermits⟩]
    case neg => rw [registerAfter_snoc_of_ne (by omega)]
  have hon := Access.on_of_permitted (h.registers _ hsucceeds.1) hsucceeds.2
  refine ⟨?_, ?_, ?_⟩
  · rw [hon]
    exact h.bar_eq
  · rw [hon]
    simpa only [put, Array.size_setIfInBounds] using h.size_eq
  · intro k hk
    rw [hanswered.applied hsucceeds k]
    by_cases hplace : k = a.place
    case pos => rw [if_pos hplace, hplace, registerAfter_snoc_of_succeeds hsucceeds]
    case neg => rw [if_neg hplace, h.registers k hk, registerAfter_snoc_of_ne (Ne.symm hplace)]

end Told

/-- after any history, fresh registers hold what is told -/
theorem told_after (bar count : Nat) (history : List Access) :
    Told bar count history ((fresh bar count).after history) := by
  induction history using List.reverseRecOn with
  | nil => exact told_fresh bar count
  | append_singleton history a ih =>
    rw [after_snoc]
    exact ih.snoc a

/-- the events of any history, in order, are what its accesses report one by one -/
theorem raised_eq (bar count : Nat) (history : List Access) :
    (fresh bar count).raised history =
      (momentsFrom [] history).flatMap fun (before, a) => a.reported (wordSize bar) count before := by
  induction history using List.reverseRecOn with
  | nil => rfl
  | append_singleton history a ih =>
    rw [raised_snoc, momentsFrom_snoc, List.flatMap_append, ih, ((told_after bar count history).answered a).events]
    simp

/-- **A simulated BAR is a register file with exact events.** For a BAR of any number of fresh registers and any history
of accesses, at any offsets:
- each register has the mode it was last given and the value of the last write to it that succeeded;
- the events of the history, in order, are one for each read that succeeded while its register asked for it and one for
each such write, with the BAR, the offset as it was passed and the value;
- the next access is out of range if its offset belongs to no register, fails if the mode of its register is against it,
and succeeds otherwise; it is answered, and it reports, what the accesses alone tell;
- one that succeeds changes its own register alone, and one that fails changes nothing. -/
theorem accesses_told (bar count : Nat) (history : List Access) :
    let f := (fresh bar count).after history
    Told bar count history f ∧
    (fresh bar count).raised history =
      ((momentsFrom [] history).flatMap fun (before, a) => a.reported (wordSize bar) count before) ∧
    ∀ a : Access, Answered bar count history a f (a.on f) := by
  intro f
  have htold : Told bar count history f := told_after bar count history
  exact ⟨htold, raised_eq bar count history, htold.answered⟩

/-- a register is written at one offset, made unreadable and watched at another, and written once more: only the second
write is reported -/
example : (fresh 2 2).raised [.write 5 7, .setMode 6 (RegisterMode.writable ||| RegisterMode.writeEvent), .write 4 9,
    .read 7, .write 8 1, .read 0] =
    [.ofPayload (.registerWrite { bar := 2, offset := 4, value := 9 })] := by decide

end RegisterFile
end BoardDriver
