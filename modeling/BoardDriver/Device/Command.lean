/-
A device as a machine that carries out commands: those of its sessions, the interrupts of the hardware, and what its
keeper does with it.

Sessions are numbered in the order they were opened, from 0. A session that is closed, or was never opened, can ask for
nothing: such a command is answered with `noSession` and changes nothing.
-/
import BoardDriver.Device.Session

namespace BoardDriver

/-- what a session asks for -/
inductive SessionRequest where
  | submit (direction : Direction) (system device length : UInt32) (watched : Bool)
  | setEventMask (mask : UInt32)
  | setForwardingMask (mask : UInt32)
  | dequeue
  | drain
  | poll
  | read (bar : Nat) (offset : UInt32)
  | readRange (bar : Nat) (offset : UInt32) (count : Nat)
  | write (bar : Nat) (offset value : UInt32)
  | modify (bar : Nat) (offset clear set : UInt32)
  | setMode (bar : Nat) (offset mode : UInt32)
  | reset
  | simulate (source : UInt32)
  | setupMemory (size : Nat)
  | transferMemory (direction : Direction) (offset : Nat) (buffer : Array UInt8)
  | close
  deriving DecidableEq, Repr

/-- what a device is told to do -/
inductive Command where
  | openSession
  | session (number : Nat) (request : SessionRequest)
  | interrupt (irq : UInt32)
  | simulate (source : UInt32)
  | setTracking (on : Bool)
  | hold
  | release
  deriving DecidableEq, Repr

inductive Reply where
  | done
  | noSession
  | opened (s : Session)
  | submitted (ticket : Ticket) (handle : Option CompletionHandle)
  | event (e : Option Event)
  | events (es : List Event)
  | readable (yes : Bool)
  | value (v : UInt32)
  | values (vs : List UInt32)
  | bytes (buffer : Array UInt8)
  | dropped (count : Nat)
  | outcome (o : InterruptOutcome)
  deriving DecidableEq, Repr

namespace Device

variable {ε α : Type}

/-- an answer that took no engine, as a reply -/
def reply (f : α → Reply) (o : Except Error α × Device ε) : Result ε (Except Error Reply) :=
  (o.1.map f, o.2, {})

/-- an answer that may have taken an engine, as a reply -/
def replyWith (f : α → Reply) (o : Result ε (Except Error α)) : Result ε (Except Error Reply) :=
  (o.1.map f, o.2.1, o.2.2)

variable [TransferEngine ε]

def serve (s : Session) (request : SessionRequest) (d : Device ε) : Result ε (Except Error Reply) :=
  match request with
  | .submit direction system device length watched =>
    replyWith (fun (ticket, handle) => .submitted ticket handle)
      (d.submitTransfer s direction system device length watched)
  | .setEventMask mask => (.ok .done, d.setEventMask s mask, {})
  | .setForwardingMask mask => (.ok .done, d.setForwardingMask s mask, {})
  | .dequeue =>
    let (event, d) := d.dequeueEvent s
    (.ok (.event event), d, {})
  | .drain =>
    let (events, d) := d.drainEvents s
    (.ok (.events events), d, {})
  | .poll =>
    let (yes, d) := d.poll s
    (.ok (.readable yes), d, {})
  | .read bar offset => reply .value (d.readRegister bar offset)
  | .readRange bar offset count => reply .values (d.readRegisterRange bar offset count)
  | .write bar offset value => reply (fun _ => .done) (d.writeRegister bar offset value)
  | .modify bar offset clear set => reply .value (d.modifyRegister bar offset clear set)
  | .setMode bar offset mode => reply (fun _ => .done) (d.setRegisterMode bar offset mode)
  | .reset => reply .dropped d.resetTransfers
  | .simulate source => replyWith .outcome (d.simulateFor source)
  | .setupMemory size => reply (fun _ => .done) (d.setupMemory s size)
  | .transferMemory direction offset buffer => reply .bytes (d.transferMemory s direction offset buffer)
  | .close => (.ok .done, d.closeSession s, {})

def step (command : Command) (d : Device ε) : Result ε (Except Error Reply) :=
  match command with
  | .openSession =>
    let (s, d) := d.openSession
    (.ok (.opened s), d, {})
  | .session number request =>
    match d.session? number with
    | some s => d.serve s request
    | none => (.ok .noSession, d, {})
  | .interrupt irq => replyWith .outcome (d.interrupt irq)
  | .simulate source => replyWith .outcome (d.simulate source)
  | .setTracking on => (.ok .done, d.setTracking on, {})
  | .hold => (.ok .done, d.hold, {})
  | .release => (.ok .done, d.release, {})

/-- carries out commands in order, and tells what each was answered and what the engine did for it -/
def run (d : Device ε) (commands : List Command) :
    Device ε × List (Except Error Reply × EngineActivity (Except Error InterruptOutcome)) :=
  commands.foldl
    (fun (d, log) command =>
      let (answer, d, activity) := d.step command
      (d, log ++ [(answer, activity)]))
    (d, [])

/-- submits a transfer and waits for it while the device carries out commands, of which it tells as `run` does; a
transfer that is still under way when the time is up goes on -/
def submitAndWait (s : Session) (direction : Direction) (system device length : UInt32) (meanwhile : List Command)
    (d : Device ε) :
    Except Error Ticket × Device ε × List (Except Error Reply × EngineActivity (Except Error InterruptOutcome)) :=
  match d.submitTransfer s direction system device length true with
  | (.error e, d, activity) => (.error e, d, [(.error e, activity)])
  | (.ok (ticket, handle), d, activity) =>
    let (d, log) := d.run meanwhile
    ((handle.map fun h => d.await h).getD (.ok ticket), d, (.ok (.submitted ticket handle), activity) :: log)

end Device
end BoardDriver
