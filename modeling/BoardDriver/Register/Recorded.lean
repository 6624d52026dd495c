/-
Any backend with a record of the calls that reach it, for statements about which calls an operation makes; and the
plainest backend with failures, which keeps whatever is written to an offset except at the offsets that it refuses.
-/
import BoardDriver.Register.Backend

namespace BoardDriver

inductive BackendCall where
  | read (offset : UInt32)
  | write (offset value : UInt32)
  | setMode (offset mode : UInt32)
  deriving DecidableEq, Repr

/-- a backend and the calls that have reached it -/
structure Recorded (β : Type) where
  backend : β
  /-- the calls, newest first -/
  log : List BackendCall := []
  deriving DecidableEq, Repr

namespace Recorded

variable {β α : Type}

/-- the calls, oldest first -/
def calls (r : Recorded β) : List BackendCall := r.log.reverse

/-- records a call and passes it on -/
def call (c : BackendCall) (x : Action β α) : Action (Recorded β) α := fun r =>
  Action.on r.backend (fun backend => { backend := backend, log := c :: r.log }) x

instance [RegisterBackend β] : RegisterBackend (Recorded β) where
  kind r := RegisterBackend.kind r.backend
  size r := RegisterBackend.size r.backend
  read offset := call (.read offset) (RegisterBackend.read offset)
  write offset value := call (.write offset value) (RegisterBackend.write offset value)
  setMode offset mode := call (.setMode offset mode) (RegisterBackend.setMode offset mode)

end Recorded

/-- a word for each offset, zero at first; every access to a refused offset fails -/
structure SparseRegisters where
  size : Nat
  refused : List UInt32 := []
  /-- words written, newest first -/
  words : List (UInt32 × UInt32) := []
  deriving DecidableEq, Repr

namespace SparseRegisters

/-- a step that fails at a refused offset -/
def guarded {α : Type} (offset : UInt32) (x : Action SparseRegisters α) : Action SparseRegisters α := fun s =>
  if offset ∈ s.refused then { result := .error (.backend (.stated "refused")), state := s } else x s

instance : RegisterBackend SparseRegisters where
  kind _ := .memoryBus
  size := size
  read offset := guarded offset fun s => { result := .ok ((s.words.lookup offset).getD 0), state := s }
  write offset value := guarded offset fun s =>
    { result := .ok (), state := { s with words := (offset, value) :: s.words } }
  setMode offset _ := guarded offset (Action.pure ())

end SparseRegisters
end BoardDriver
