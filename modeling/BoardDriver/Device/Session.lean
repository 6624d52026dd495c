/-
Sessions: one user's hold on a device.

A session has an id, which is the cookie of its transfers, and a subscriber of its own, which is how events find their
way to it. Closing it takes its subscriber off the registry with all that waits there, and gives up the memory it owns.

The operations of a session count as controls or polls. The order of checks and counts is part of the behaviour: a
transfer of no bytes and an operation that needs the simulated board are refused before they count, a register access
counts before it is checked.
-/
import BoardDriver.Device.Basic

namespace BoardDriver

/-- an open session: its subscriber in the registry, and its id -/
structure Session where
  subscriber : Nat
  id : Cookie
  deriving DecidableEq, Repr

namespace Device

variable {ε α : Type}

def openSession (d : Device ε) : Session × Device ε :=
  let id : Cookie := ⟨d.nextSession⟩
  let (ref, registry) := d.registry.add (.fresh id d.config.eventDepth)
  ({ subscriber := ref, id := id },
    { d with nextSession := d.nextSession + 1, registry := registry.register ref,
             statistics := d.statistics.recordOpen })

def closeSession (s : Session) (d : Device ε) : Device ε :=
  let (_, registry) := d.registry.unregister s.id
  let (_, memory) := d.memory.release s.id
  { d with registry := registry.forget s.subscriber, memory := memory, statistics := d.statistics.recordRelease }

/-- the open session of a subscriber -/
def session? (d : Device ε) (subscriber : Nat) : Option Session :=
  (d.registry.subscriber? subscriber).map fun s => { subscriber := subscriber, id := s.id }

/-- counts an operation of a session -/
def control (d : Device ε) : Device ε := { d with statistics := d.statistics.recordControl }

def countPoll (d : Device ε) : Device ε := { d with statistics := d.statistics.recordPoll }

def modifySubscriber (s : Session) (f : Subscriber → Subscriber) (d : Device ε) : Device ε :=
  match d.registry.subscriber? s.subscriber with
  | some subscriber => { d with registry := d.registry.put s.subscriber (f subscriber) }
  | none => d

/-- chooses the kinds of event that a session receives -/
def setEventMask (s : Session) (mask : UInt32) (d : Device ε) : Device ε :=
  d.control.modifySubscriber s fun subscriber => { subscriber with enableMask := mask }

/-- chooses the interrupt sources that a session receives -/
def setForwardingMask (s : Session) (mask : UInt32) (d : Device ε) : Device ε :=
  d.control.modifySubscriber s fun subscriber => { subscriber with irqMask := mask }

def dequeueEvent (s : Session) (d : Device ε) : Option Event × Device ε :=
  match d.registry.subscriber? s.subscriber with
  | some subscriber =>
    let (event, subscriber) := subscriber.dequeue
    (event, { d with registry := d.registry.put s.subscriber subscriber })
  | none => (none, d)

def drainEvents (s : Session) (d : Device ε) : List Event × Device ε :=
  match d.registry.subscriber? s.subscriber with
  | some subscriber =>
    let (events, subscriber) := subscriber.drain
    (events, { d with registry := d.registry.put s.subscriber subscriber })
  | none => ([], d)

/-- whether an event waits for a session -/
def poll (s : Session) (d : Device ε) : Bool × Device ε :=
  ((d.registry.subscriber? s.subscriber).any Subscriber.isReadable, d.countPoll)

def readRegister (bar : Nat) (offset : UInt32) (d : Device ε) : Except Error UInt32 × Device ε :=
  d.control.adopt (d.table.read bar offset)

def readRegisterRange (bar : Nat) (offset : UInt32) (count : Nat) (d : Device ε) :
    Except Error (List UInt32) × Device ε :=
  d.control.adopt (d.table.readRange bar offset count)

def writeRegister (bar : Nat) (offset value : UInt32) (d : Device ε) : Except Error Unit × Device ε :=
  d.control.adopt (d.table.write bar offset value)

def modifyRegister (bar : Nat) (offset clear set : UInt32) (d : Device ε) : Except Error UInt32 × Device ε :=
  d.control.adopt (d.table.modify bar offset clear set)

def setRegisterMode (bar : Nat) (offset mode : UInt32) (d : Device ε) : Except Error Unit × Device ε :=
  d.control.adopt (d.table.setMode bar offset mode)

/-- drops every transfer; answers with the number dropped -/
def resetTransfers (d : Device ε) : Except Error Nat × Device ε :=
  match d.requireSimulator "reset_dma" with
  | .error e => (.error e, d)
  | .ok () =>
    let (count, ledger) := d.ledger.reset
    (.ok count, { d.control with ledger := ledger })

def setupMemory (s : Session) (size : Nat) (d : Device ε) : Except Error Unit × Device ε :=
  match d.requireSimulator "setup_simulator_memory" with
  | .error e => (.error e, d)
  | .ok () =>
    let (answer, memory) := d.memory.setup s.id size
    (answer, { d.control with memory := memory })

/-- exchanges a buffer with the session's window of memory -/
def transferMemory (s : Session) (direction : Direction) (offset : Nat) (buffer : Array UInt8) (d : Device ε) :
    Except Error (Array UInt8) × Device ε :=
  match d.requireSimulator "simulate_dma_transfer" with
  | .error e => (.error e, d)
  | .ok () =>
    let (answer, memory) := d.memory.transfer s.id direction offset buffer
    (answer, { d.control with memory := memory })

variable [TransferEngine ε]

/-- submits a transfer between two addresses; a watched one answers with a handle as well -/
def submitTransfer (s : Session) (direction : Direction) (system device length : UInt32) (watched : Bool)
    (d : Device ε) : Result ε (Except Error (Ticket × Option CompletionHandle)) :=
  if length = 0 then (.error (.invalidArgument .emptyTransfer), d, {})
  else
    let d := d.control
    let (request, handle, ledger) :=
      d.ledger.newRequest (.between direction system device length) s.id watched
    let (d, activity) := submit request { d with ledger := ledger }
    (.ok (request.ticket, handle), d, activity)

/-- raises the interrupt of the lowest bit of a map of sources, on the simulated board -/
def simulateFor (source : UInt32) (d : Device ε) : Result ε (Except Error InterruptOutcome) :=
  d.control.simulate source

omit [TransferEngine ε] in
/-- what waiting for a transfer answers when nothing happens meanwhile -/
def await (h : CompletionHandle) (d : Device ε) : Except Error Ticket :=
  d.ledger.completions.wait h d.config.timeout

end Device
end BoardDriver
