/-
Settings, decided once when the device is built.
-/
import BoardDriver.Error
import BoardDriver.Board.InterruptVector
import BoardDriver.Event.Basic

namespace BoardDriver

/-- settings of a device; the values given here are those of the simulator -/
structure Config where
  mode : Mode := .simulator
  /-- most events that wait for a session -/
  eventDepth : Nat := defaultEventDepth
  /-- most events that wait for publication -/
  dispatchPool : Nat := defaultDispatchPool
  /-- milliseconds a session waits for a transfer -/
  dmaTimeout : Nat := 1000
  /-- host interrupt of vector 0 -/
  irqBase : UInt32 := simulatorIrqBase
  pcieAddress : Option String := none
  /-- physical address of chip select 0 -/
  membusBase : Option Nat := none
  deriving DecidableEq, Repr

namespace Config

def simulator : Config := {}

def pcie (address : String) (irqBase : UInt32) : Config :=
  { mode := .pcie, irqBase := irqBase, pcieAddress := some address }

/-- how long a session waits for a transfer -/
def timeout (c : Config) : Duration := .ofMilliseconds c.dmaTimeout

/-- the first reason against the settings -/
def validate (c : Config) : Except Error Unit :=
  if c.eventDepth = 0 then .error (.invalidArgument .emptyQueue)
  else if c.dispatchPool = 0 then .error (.invalidArgument .emptyPool)
  else
    match c.mode with
    | .simulator => .ok ()
    | .pcie | .fvd => if c.pcieAddress.isNone then .error (.invalidArgument (.addressNeeded c.mode)) else .ok ()
    | .membus => if c.membusBase.isNone then .error (.invalidArgument .baseNeeded) else .ok ()

end Config
end BoardDriver
