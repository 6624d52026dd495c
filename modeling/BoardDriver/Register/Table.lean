/-
The BARs of a board behind the guard.

Every register access of user space is checked first, in this order: the BAR exists, something is behind it, the mode
permits the access, the offset is inside. An access that is refused never reaches a backend.
-/
import BoardDriver.Register.Bank
import BoardDriver.Board.Rights
import BoardDriver.Board.Layout
import BoardDriver.Checked

namespace BoardDriver

/-- the BARs of a board in order, with the mode that decides the rights on them -/
structure RegisterTable (β : Type) where
  mode : Mode
  banks : List (RegisterBank β)
  deriving Repr

namespace RegisterTable

variable {β α : Type}

/-- the table of the given banks, filled up with disabled ones -/
def ofBanks (mode : Mode) (banks : List (RegisterBank β)) : RegisterTable β :=
  { mode := mode
    banks := banks ++ (List.range (barCount - banks.length)).map fun i => RegisterBank.disabled (banks.length + i) }

def bank? (t : RegisterTable β) (bar : Nat) : Option (RegisterBank β) := t.banks[bar]?

def setBank (t : RegisterTable β) (bar : Nat) (b : RegisterBank β) : RegisterTable β :=
  { t with banks := t.banks.set bar b }

/-- the bank that an access may go to, or the first reason against it -/
def checkAccess (t : RegisterTable β) (bar : Nat) (kind : AccessKind) (offset : UInt32) :
    Except Error (RegisterBank β) :=
  match t.bank? bar with
  | none => .error (.invalidBar bar)
  | some b =>
    if !b.isEnabled then .error (.barDisabled bar)
    else if !t.mode.permits bar kind then .error (.permissionDenied bar kind.name t.mode.name)
    else if b.size ≤ offset.toNat then .error (.outOfRange offset.toNat b.size)
    else .ok b

/-- a step on a bank of the table, with no guard; none if there is no such bank -/
def onBank? (bar : Nat) (x : Action (RegisterBank β) α) (t : RegisterTable β) : Option (Outcome (RegisterTable β) α) :=
  (t.bank? bar).map fun b => Action.on b (t.setBank bar) x

/-- a step on a bank behind the guard -/
def guarded (bar : Nat) (kind : AccessKind) (offset : UInt32) (x : Action (RegisterBank β) α) :
    Action (RegisterTable β) α := fun t =>
  match t.checkAccess bar kind offset with
  | .error e => { result := .error e, state := t }
  | .ok b => Action.on b (t.setBank bar) x

/-- the offset of the register `i` places after another; none if that takes more than 32 bits -/
def placeAfter? (offset i : UInt32) : Option UInt32 :=
  (Checked.mul? i (UInt32.ofNat registerBytes)).bind (Checked.add? offset)

/-- the same in 64 bits, which always have room for it -/
def widePlaceAfter (offset i : UInt32) : UInt64 :=
  offset.toUInt64 + i.toUInt64 * UInt64.ofNat registerBytes

theorem placeAfter?_eq_some_iff (offset i place : UInt32) :
    placeAfter? offset i = some place ↔ place.toNat = offset.toNat + i.toNat * registerBytes := by
  simp only [placeAfter?, Option.bind_eq_some_iff, Checked.mul?, Checked.add?, Checked.word?_eq_some_iff]
  constructor
  · rintro ⟨step, hstep, hplace⟩
    rw [hplace, hstep]
    rfl
  · intro hplace
    have hlt := place.toNat_lt_size
    have hstep : i.toNat * registerBytes < UInt32.size := by omega
    refine ⟨UInt32.ofNat (i.toNat * registerBytes), UInt32.toNat_ofNat_of_lt' hstep, ?_⟩
    rw [hplace, UInt32.toNat_ofNat_of_lt' hstep]

theorem placeAfter?_eq_none_iff (offset i : UInt32) :
    placeAfter? offset i = none ↔ UInt32.size ≤ offset.toNat + i.toNat * registerBytes := by
  rw [Option.eq_none_iff_forall_ne_some]
  simp only [ne_eq, placeAfter?_eq_some_iff]
  constructor
  · intro h
    refine Nat.le_of_not_lt fun hlt => h (UInt32.ofNat (offset.toNat + i.toNat * registerBytes)) ?_
    exact UInt32.toNat_ofNat_of_lt' hlt
  · intro h place hplace
    have hlt := place.toNat_lt_size
    omega

theorem toNat_widePlaceAfter (offset i : UInt32) :
    (widePlaceAfter offset i).toNat = offset.toNat + i.toNat * registerBytes := by
  have hoffset := offset.toNat_lt
  have hi := i.toNat_lt
  simp only [widePlaceAfter, registerBytes, UInt64.toNat_add, UInt64.toNat_mul, UInt32.toNat_toUInt64,
    UInt64.toNat_ofNat']
  omega

variable [RegisterBackend β]

def read (bar : Nat) (offset : UInt32) : Action (RegisterTable β) UInt32 :=
  guarded bar .read offset (RegisterBank.read offset)

def write (bar : Nat) (offset value : UInt32) : Action (RegisterTable β) Unit :=
  guarded bar .write offset (RegisterBank.write offset value)

/-- guarded change of some bits; answers with the value written -/
def modify (bar : Nat) (offset clear set : UInt32) : Action (RegisterTable β) UInt32 :=
  guarded bar .modify offset (RegisterBank.modify offset clear set)

def setMode (bar : Nat) (offset mode : UInt32) : Action (RegisterTable β) Unit :=
  guarded bar .event offset (RegisterBank.setMode offset mode)

/-- guarded read of the register `i` places after an offset; a place past the 32-bit offsets is refused -/
def readPlace (bar : Nat) (offset : UInt32) (i : Nat) : Action (RegisterTable β) UInt32 :=
  let index := UInt32.ofNat i
  match placeAfter? offset index with
  | some place => read bar place
  | none => Action.fail (.outOfRange (widePlaceAfter offset index).toNat (UInt32.size - 1))

/-- guarded reads of `count` places from place `i` on; the first failure ends them -/
def readPlaces (bar : Nat) (offset : UInt32) : Nat → Nat → Action (RegisterTable β) (List UInt32)
  | _, 0 => pure []
  | i, count + 1 => do
    let value ← readPlace bar offset i
    let rest ← readPlaces bar offset (i + 1) count
    return value :: rest

/-- guarded reads of `count` consecutive registers -/
def readRange (bar : Nat) (offset : UInt32) (count : Nat) : Action (RegisterTable β) (List UInt32) :=
  readPlaces bar offset 0 count

end RegisterTable
end BoardDriver
