/-
The four ways a board is reached, fixed when the device is built.
-/
namespace BoardDriver

/-- how the registers of the board are reached, and so which board it is -/
inductive Mode where
  | simulator
  | pcie
  | membus
  | fvd
  deriving DecidableEq, Repr, Inhabited

namespace Mode

def name : Mode → String
  | simulator => "simulator"
  | pcie => "pcie"
  | membus => "membus"
  | fvd => "fvd"

/-- the bus the host sees -/
def interface : Mode → String
  | membus => "memory bus"
  | _ => "PCIe"

def isSimulator (m : Mode) : Bool :=
  m = simulator

/-- the mode a user's word names, in letters of either case -/
def ofName? (word : String) : Option Mode :=
  match String.ofList (word.toList.map Char.toLower) with
  | "sim" | "simulator" => some simulator
  | "pcie" | "pci" => some pcie
  | "membus" | "memory-bus" => some membus
  | "fvd" => some fvd
  | _ => none

end Mode
end BoardDriver
