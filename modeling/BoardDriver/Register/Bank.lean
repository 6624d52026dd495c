/-
One BAR: a backend, or nothing. These accesses are raw: nothing guards them. An access to a BAR without a backend fails
before anything is touched.
-/
import BoardDriver.Register.Backend

namespace BoardDriver

structure RegisterBank (β : Type) where
  bar : Nat
  /-- number of byte offsets, as told by the backend when the bank was made; none without a backend -/
  size : Nat
  backend : Option β
  deriving Repr

namespace RegisterBank

variable {β α : Type} [RegisterBackend β]

def ofBackend (bar : Nat) (backend : Option β) : RegisterBank β :=
  { bar := bar, size := (backend.map RegisterBackend.size).getD 0, backend := backend }

omit [RegisterBackend β] in
/-- a bank with nothing behind it -/
def disabled (bar : Nat) : RegisterBank β :=
  { bar := bar, size := 0, backend := none }

omit [RegisterBackend β] in
/-- whether anything is behind the bank -/
def isEnabled (b : RegisterBank β) : Bool := b.backend.isSome

def kind (b : RegisterBank β) : Option BackendKind := b.backend.map RegisterBackend.kind

omit [RegisterBackend β] in
/-- a step on the backend, all of it under the lock of the bank -/
def onBackend (x : Action β α) : Action (RegisterBank β) α := fun b =>
  match b.backend with
  | none => { result := .error (.barDisabled (wordSize b.bar)), state := b }
  | some backend => { Action.on backend (fun s => { b with backend := some s }) x with locks := 1 }

def read (offset : UInt32) : Action (RegisterBank β) UInt32 :=
  onBackend (RegisterBackend.read offset)

def write (offset value : UInt32) : Action (RegisterBank β) Unit :=
  onBackend (RegisterBackend.write offset value)

/-- clears the bits of `clear`, then sets those of `set`; answers with the value written -/
def modify (offset clear set : UInt32) : Action (RegisterBank β) UInt32 :=
  onBackend do
    let old ← RegisterBackend.read offset
    let new := (old &&& ~~~clear) ||| set
    RegisterBackend.write offset new
    return new

/-- changes what accesses to a register are reported -/
def setMode (offset mode : UInt32) : Action (RegisterBank β) Unit :=
  onBackend (RegisterBackend.setMode offset mode)

/-- writes registers in order and stops at the first failure -/
def writeSequence (writes : List (UInt32 × UInt32)) : Action (RegisterBank β) Unit :=
  onBackend (Action.sequence (writes.map fun (offset, value) => RegisterBackend.write offset value))

end RegisterBank
end BoardDriver
