/-
Interrupt routing: host interrupt `base + v` is vector `v` of the board, and the board's table says what the vector
stands for.
-/
import BoardDriver.Board.InterruptVector
import BoardDriver.Error

namespace BoardDriver

/-- where an interrupt leads -/
inductive Route where
  | dma (channel : Nat)
  | source (vector : Nat) (name : String)
  deriving DecidableEq, Repr

/-- the numbers under which a board's vectors arrive -/
structure InterruptRouter where
  mode : Mode
  base : UInt32
  deriving DecidableEq, Repr

namespace InterruptRouter

/-- where an interrupt leads, if it is an enabled vector of the board -/
def route (r : InterruptRouter) (irq : UInt32) : Except Error Route :=
  let vector := irq.toNat - r.base.toNat
  if irq < r.base ∨ vectorCount ≤ vector then .error (.invalidArgument (.notVector irq))
  else
    match r.mode.vector vector with
    | .dmaDone channel => .ok (.dma channel)
    | .source name => .ok (.source vector name)
    | .disabled => .error (.invalidArgument (.vectorDisabled vector))

/-- the interrupt of the lowest bit of a map of sources -/
def irqForSource (r : InterruptRouter) (source : UInt32) : Except Error UInt32 :=
  match vectorOfSource? source with
  | none => .error (.invalidArgument .emptySource)
  | some vector =>
    if r.base.toNat + vector < UInt32.size then .ok (r.base + UInt32.ofNat vector)
    else .error (.invalidArgument .irqOverflow)

def enabled (r : InterruptRouter) : List (Nat × InterruptVector) :=
  ((List.range vectorCount).map fun v => (v, r.mode.vector v)).filter fun e => e.2.isEnabled

end InterruptRouter
end BoardDriver
