/-
The backend that each BAR of a board gets: simulated registers, a window onto the resource file of a PCIe device, or a
window onto the physical memory of a board on the memory bus.
-/
import BoardDriver.Config
import BoardDriver.Register.MappedWindow
import BoardDriver.Register.RegisterFile

namespace BoardDriver

inductive BoardBackend where
  | simulated (registers : RegisterFile)
  | mapped (window : MappedWindow)
  | memoryBus (window : MappedWindow)
  deriving DecidableEq, Repr

namespace BoardBackend

/-- a step on whichever backend it is -/
def act {α : Type} (onFile : Action RegisterFile α) (onWindow : Action MappedWindow α) : Action BoardBackend α
  | simulated f => Action.on f simulated onFile
  | mapped w => Action.on w mapped onWindow
  | memoryBus w => Action.on w memoryBus onWindow

instance : RegisterBackend BoardBackend where
  kind
    | simulated _ => .simulated
    | mapped _ => .mapped
    | memoryBus _ => .memoryBus
  size
    | simulated f => f.size
    | mapped w | memoryBus w => w.size
  read offset := act (RegisterFile.read offset) (MappedWindow.read offset)
  write offset value := act (RegisterFile.write offset value) (MappedWindow.write offset value)
  setMode offset mode := act (RegisterFile.setMode offset mode) (Action.pure ())

/-- file of the host through which a BAR of a PCIe device is reached -/
def resourcePath (address : String) (bar : Nat) : String :=
  "/sys/bus/pci/devices/" ++ address ++ "/resource" ++ toString bar

/-- file of the host that holds physical memory -/
def physicalMemoryPath : String := "/dev/mem"

/-- the backend of a BAR; none if the board does not have the BAR, or the host has no file for it -/
def select (files : HostFiles) (config : Config) (bar : Nat) : Except Error (Option BoardBackend) :=
  match config.mode with
  | .simulator =>
    match (simulatedBars[bar]?).filter SimulatedBar.isPresent with
    | some layout => .ok (some (simulated (.fresh bar layout.registers)))
    | none => .ok none
  | .pcie | .fvd =>
    match config.pcieAddress with
    | none => .error (.invalidArgument .addressUnset)
    | some address =>
      match MappedWindow.ofFile files (resourcePath address bar) 0 none with
      | .ok w => .ok (some (mapped w))
      | .error (.deviceNotFound _) => .ok none
      | .error e => .error e
  | .membus =>
    match config.membusBase with
    | none => .error (.invalidArgument .baseUnset)
    | some base =>
      match MemoryBus.address? base bar with
      | none => .ok none
      | some physical =>
        (MappedWindow.ofFile files physicalMemoryPath physical (some MemoryBus.windowBytes)).map (some ∘ memoryBus)

end BoardBackend
end BoardDriver
