/-
What a transfer moves: a number of bytes between an address on the system's side and one on the device's side.
-/
namespace BoardDriver

/-- down goes from the system to the device, up the other way -/
inductive Direction where
  | down
  | up
  deriving DecidableEq, Repr, Inhabited

namespace Direction

/-- what the controller's direction register holds -/
def registerValue : Direction → UInt32
  | down => 0
  | up => 1

def name : Direction → String
  | down => "down"
  | up => "up"

end Direction

structure TransferDescriptor where
  source : UInt32
  destination : UInt32
  length : UInt32
  direction : Direction
  deriving DecidableEq, Repr, Inhabited

namespace TransferDescriptor

/-- the transfer of `length` bytes between two addresses -/
def between (direction : Direction) (system device length : UInt32) : TransferDescriptor :=
  match direction with
  | .down => { source := system, destination := device, length := length, direction := .down }
  | .up => { source := device, destination := system, length := length, direction := .up }

end TransferDescriptor
end BoardDriver
