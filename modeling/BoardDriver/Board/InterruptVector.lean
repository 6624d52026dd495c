/-
The interrupt vectors of the board. Vector `v` arrives as host interrupt `base + v`; the source it stands for is the
bit `2 ^ v`. A vector is disabled, reports that a DMA channel is done, or names a source on the board.
-/
import BoardDriver.Board.Mode
import BoardDriver.Bits

namespace BoardDriver

/-- what a vector stands for -/
inductive InterruptVector where
  | disabled
  | dmaDone (channel : Nat)
  | source (name : String)
  deriving DecidableEq, Repr

def vectorCount : Nat := 32

/-- first host interrupt of the simulated board -/
def simulatorIrqBase : UInt32 := 1

namespace InterruptVector

def isEnabled : InterruptVector → Bool
  | disabled => false
  | _ => true

end InterruptVector

def Mode.vector : Mode → Nat → InterruptVector
  | .fvd, 0 => .dmaDone 0
  | .fvd, 8 => .source "fvd_interrupt"
  | .fvd, _ => .disabled
  | _, 8 => .source "err"
  | _, 10 => .source "syssync"
  | _, 11 => .source "clrx_sync"
  | _, 12 => .source "vin0_sync"
  | _, 13 => .source "vin1_sync"
  | _, 14 => .source "irig_pps"
  | _, 15 => .source "mdst_done"
  | _, 16 => .source "mdsrx6_done"
  | _, 17 => .source "manual_irq"
  | _, v => if v < 8 then .dmaDone v else .disabled

/-- the bit of a vector in a map of sources -/
def sourceOfVector (v : Nat) : UInt32 :=
  ⟨BitVec.twoPow 32 v⟩

/-- the vector of the lowest bit of a map of sources -/
def vectorOfSource? (source : UInt32) : Option Nat :=
  Bits.lowest? source.toBitVec

end BoardDriver
