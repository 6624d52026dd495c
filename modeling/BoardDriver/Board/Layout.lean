/-
Where things are on the board: how many BARs there are, which of them the simulator fills, which of them holds the DMA
controller, and the windows of a board on the memory bus.
-/
import BoardDriver.Board.Mode

namespace BoardDriver

/-- number of BARs of a PCIe function -/
def barCount : Nat := 6

def registerBytes : Nat := 4

structure SimulatedBar where
  name : String
  registers : Nat
  deriving DecidableEq, Repr

namespace SimulatedBar

def size (b : SimulatedBar) : Nat := b.registers * registerBytes

/-- whether the board has the BAR at all -/
def isPresent (b : SimulatedBar) : Bool := 0 < b.registers

end SimulatedBar

def simulatedBars : List SimulatedBar :=
  [⟨"DMA", 512⟩, ⟨"CTL", 1024⟩, ⟨"", 0⟩, ⟨"", 0⟩, ⟨"", 0⟩, ⟨"", 0⟩]

/-- the BAR that holds the DMA controller -/
def Mode.dmaBar : Mode → Nat
  | .fvd => 3
  | _ => 0

namespace MemoryBus

/-- chip selects of the memory bus, one BAR each -/
def chipSelects : Nat := 2

/-- distance between two chip selects -/
def stride : Nat := 0x02000000

/-- bytes of the window of a chip select -/
def windowBytes : Nat := 4096

/-- physical address of a BAR's window -/
def address? (base bar : Nat) : Option Nat :=
  if bar < chipSelects then some (base + bar * stride) else none

end MemoryBus
end BoardDriver
