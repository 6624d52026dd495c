/-
Asking the board how many DMA channels it has and which of them are idle.
-/
import BoardDriver.Board.Mode
import BoardDriver.Register.Bank
import BoardDriver.Bits
import BoardDriver.Board.RegisterMap

namespace BoardDriver

structure ChannelReport where
  channels : Nat
  idle : BitVec 32
  deriving DecidableEq, Repr

/-- reads the controller's capability and status; the simulated board has one idle channel and is not asked -/
def probeChannels {β : Type} [RegisterBackend β] (mode : Mode) : Action (RegisterBank β) ChannelReport :=
  if mode.isSimulator then
    pure { channels := simulatorDmaChannels, idle := 1 }
  else do
    let capability ← RegisterBank.read DmaRegister.capability
    let status ← RegisterBank.read DmaRegister.status
    let channels := (capability &&& DmaRegister.channelCountMask).toNat
    return { channels := channels, idle := ~~~status.toBitVec &&& Bits.mask channels }

end BoardDriver
