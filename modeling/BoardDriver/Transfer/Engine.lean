/-
Starting a transfer on a channel.

An engine is told which channel to start with which descriptor, and may fail. It may also be synchronous: it then raises
interrupts of its own before the start returns.

The engine of the board writes the controller's registers through a bank: the channel first, because it selects the
registers that the others land in, and the start register last, because the hardware acts on it.
-/
import BoardDriver.Register.Bank
import BoardDriver.Transfer.Launch

namespace BoardDriver

/-- states `ε` of something that starts transfers -/
class TransferEngine (ε : Type) where
  start : Start → Action ε Unit
  /-- interrupts raised, in order, before the start returns -/
  raises : ε → Start → List UInt32

namespace Start

/-- the register writes that start a transfer -/
def writes (s : Start) : List (UInt32 × UInt32) :=
  [(DmaRegister.channel, UInt32.ofNat (wordSize s.channel)),
   (DmaRegister.source, s.descriptor.source),
   (DmaRegister.destination, s.descriptor.destination),
   (DmaRegister.direction, s.descriptor.direction.registerValue),
   (DmaRegister.length, s.descriptor.length),
   (DmaRegister.start, 1)]

def program {β : Type} [RegisterBackend β] (s : Start) : Action (RegisterBank β) Unit :=
  RegisterBank.writeSequence s.writes

end Start

instance {β : Type} [RegisterBackend β] : TransferEngine (RegisterBank β) where
  start := Start.program
  raises _ _ := []

/-- starts a transfer on an engine that is a part of a larger state -/
def TransferEngine.launchOn {ε σ : Type} [TransferEngine ε] (engine : ε) (put : ε → σ) (start : Start) : Launched σ :=
  let o := TransferEngine.start start engine
  { result := o.result, state := put o.state, events := o.events, raised := TransferEngine.raises o.state start }

end BoardDriver
