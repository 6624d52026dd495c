/-
What stands behind a BAR: something with registers that can be read, written, and told which accesses to report.

The class leaves the behaviour open: a backend may keep any state and fail as it likes. What the guard of
`RegisterTable` promises, it promises for every backend.
-/
import BoardDriver.Register.Action

namespace BoardDriver

inductive BackendKind where
  | simulated
  | mapped
  | memoryBus
  deriving DecidableEq, Repr

def BackendKind.name : BackendKind → String
  | simulated => "Simulated"
  | mapped => "MMIO (PCIe)"
  | memoryBus => "Memory bus"

/-- states `β` that serve the registers of a BAR -/
class RegisterBackend (β : Type) where
  kind : β → BackendKind
  /-- number of byte offsets served -/
  size : β → Nat
  read : UInt32 → Action β UInt32
  write : UInt32 → UInt32 → Action β Unit
  setMode : UInt32 → UInt32 → Action β Unit

/-- a size as a 32-bit number, the greatest one if it does not fit -/
def wordSize (n : Nat) : Nat := min n (UInt32.size - 1)

end BoardDriver
