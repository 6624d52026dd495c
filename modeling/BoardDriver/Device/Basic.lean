/-
The device: everything that the sessions of one board share.

- `Device.build` decides whether a board can be driven, and how many DMA channels it has.
- `Device.interrupt` is the way in for the hardware: a DMA vector retires a transfer and tells its owner, every other
  enabled vector is told to whoever asked for it.

A board's own engine writes the DMA registers through the bank that holds them. Events of registers go to the
subscribers at once, all others through the dispatcher.
-/
import BoardDriver.Board.Backend
import BoardDriver.Event.Dispatcher
import BoardDriver.Interrupt
import BoardDriver.Register.Table
import BoardDriver.Statistics
import BoardDriver.Transfer.DmaUnit
import BoardDriver.Transfer.OwnedMemory
import BoardDriver.Transfer.Probe

namespace BoardDriver

/-- what an interrupt came to -/
inductive InterruptOutcome where
  | dmaDone (r : Retired)
  /-- a DMA vector with nothing to retire -/
  | spurious
  | forwarded (source : UInt32)
  deriving DecidableEq, Repr

/-- a board and all that its sessions share -/
structure Device (ε : Type) where
  config : Config
  table : RegisterTable BoardBackend
  ledger : TransferLedger
  dispatcher : Dispatcher
  /-- an engine given from outside; without one, the board's own starts the transfers -/
  engine : Option ε := none
  registry : Registry := {}
  statistics : Statistics := {}
  memory : OwnedMemory := {}
  /-- id of the next session -/
  nextSession : UInt64 := 1
  /-- how long each transfer takes on the host's clock -/
  elapsed : Ticket → Duration := fun _ => ⟨0⟩

namespace Device

variable {ε α : Type}

def openBanks (files : HostFiles) (config : Config) : Except Error (RegisterTable BoardBackend) := do
  let banks ← (List.range barCount).mapM fun bar =>
    (BoardBackend.select files config bar).map (RegisterBank.ofBackend bar)
  return RegisterTable.ofBanks config.mode banks

/-- the bank that holds the DMA registers -/
def dmaBank (table : RegisterTable BoardBackend) : Except Error (RegisterBank BoardBackend) :=
  match (table.bank? table.mode.dmaBar).filter RegisterBank.isEnabled with
  | some bank => .ok bank
  | none => .error (.barDisabled table.mode.dmaBar)

/-- a scheduler of the channels that the board reports, each bound to its interrupt -/
def probeScheduler (config : Config) (bank : RegisterBank BoardBackend) : Except Error Scheduler := do
  let report ← (probeChannels config.mode bank).result
  let (bound, scheduler) := (Scheduler.fresh report.channels report.idle).bindInterrupts config.irqBase
  bound
  return scheduler

/-- the device of a board, or the first reason against it -/
def build (files : HostFiles) (config : Config) (engine : Option ε) : Except Error (Device ε) := do
  config.validate
  let table ← openBanks files config
  let bank ← dmaBank table
  let scheduler ← probeScheduler config bank
  let dispatcher ← Dispatcher.start config.dispatchPool
  return { config := config, table := table, ledger := { scheduler := scheduler }, dispatcher := dispatcher,
           engine := engine }

/-- where the interrupts of the board lead -/
def router (d : Device ε) : InterruptRouter :=
  { mode := d.config.mode, base := d.config.irqBase }

def info (d : Device ε) : String :=
  let (major, minor, revision) := version
  "fpgabus " ++ toString major ++ "." ++ toString minor ++ "." ++ toString revision ++ " (" ++ d.config.mode.name ++
    ", " ++ d.config.mode.interface ++ ")"

def sessionCount (d : Device ε) : Nat := d.registry.liveCount

/-- what a step on the registers leaves behind; its events go to the subscribers -/
def adopt (d : Device ε) (o : Outcome (RegisterTable BoardBackend) α) : Except Error α × Device ε :=
  (o.result, { d with table := o.state, registry := d.registry.publishAll o.events })

/-- a step on a bank with no guard; none if there is no such bank -/
def onBank? (bar : Nat) (x : Action (RegisterBank BoardBackend) α) (d : Device ε) :
    Option (Except Error α × Device ε) :=
  (d.table.onBank? bar x).map d.adopt

/-- hands an event to the dispatcher; one that it refuses is lost -/
def tell (p : Payload) (d : Device ε) : Device ε :=
  let (_, dispatcher, registry) := d.dispatcher.dispatch (.ofPayload p) d.registry
  { d with dispatcher := dispatcher, registry := registry }

def hold (d : Device ε) : Device ε := { d with dispatcher := d.dispatcher.hold }

def release (d : Device ε) : Device ε :=
  let (dispatcher, registry) := d.dispatcher.release d.registry
  { d with dispatcher := dispatcher, registry := registry }

def setTracking (on : Bool) (d : Device ε) : Device ε :=
  { d with statistics := d.statistics.setTracking on }

/-- counts a transfer that is done and tells its owner -/
def account (r : Retired) (d : Device ε) : Device ε :=
  let elapsed := d.elapsed r.ticket
  let d := { d with
    statistics := d.statistics.recordTransfer r.descriptor.direction r.descriptor.length elapsed }
  d.tell (.dmaDone r.ticket elapsed r.cookie)

/-- what an operation on a device leaves behind -/
abbrev Result (ε α : Type) : Type := α × Device ε × EngineActivity (Except Error InterruptOutcome)

/-- retires the request that an interrupt reports, and has `kick` start the one that takes over the channel -/
def retireWith (kick : Start → Device ε → Device ε × EngineActivity (Except Error InterruptOutcome)) (irq : UInt32)
    (d : Device ε) : Result ε (Except Error Retired) :=
  match d.ledger.retire irq with
  | .error e => (.error e, d, {})
  | .ok (done, ledger) =>
    let (d, activity) := kickOff? kick done.next { d with ledger := ledger }
    (.ok (done.request.retiredOn done.channel), d, activity)

/-- answers an interrupt -/
def interruptWith (kick : Start → Device ε → Device ε × EngineActivity (Except Error InterruptOutcome)) (irq : UInt32)
    (d : Device ε) : Result ε (Except Error InterruptOutcome) :=
  match d.router.route irq with
  | .error e => (.error e, d, {})
  | .ok (.source vector _) =>
    let source := sourceOfVector vector
    (.ok (.forwarded source), d.tell (.interrupt source), {})
  | .ok (.dma _) =>
    match retireWith kick irq d with
    | (.ok retired, d, activity) => (.ok (.dmaDone retired), d.account retired, activity)
    | (.error _, d, activity) => (.ok .spurious, d, activity)

variable [TransferEngine ε]

def launch (start : Start) (d : Device ε) : Launched (Device ε) :=
  match d.engine with
  | some engine =>
    let o := TransferEngine.launchOn engine some start
    { o with state := { d with engine := o.state, registry := d.registry.publishAll o.events }, events := [] }
  | none =>
    match d.onBank? d.config.mode.dmaBar start.program with
    | some (result, d) => { result := result, state := d }
    | none => { result := .error (.invalidBar d.config.mode.dmaBar), state := d }

/-- answers an interrupt while at most `depth` requests wait; with none waiting no start follows -/
def interruptWithin : Nat → UInt32 → Device ε → Result ε (Except Error InterruptOutcome)
  | 0 => interruptWith fun _ d => (d, {})
  | depth + 1 => interruptWith (kickOff launch (interruptWithin depth))

/-- answers an interrupt of the hardware -/
def interrupt (irq : UInt32) (d : Device ε) : Result ε (Except Error InterruptOutcome) :=
  interruptWithin d.ledger.scheduler.pending.length irq d

/-- retires the request that an interrupt reports, but neither counts it nor tells its owner -/
def retire (irq : UInt32) (d : Device ε) : Result ε (Except Error Retired) :=
  retireWith (kickOff launch interrupt) irq d

def submit (r : Request) (d : Device ε) : Device ε × EngineActivity (Except Error InterruptOutcome) :=
  let (start, ledger) := d.ledger.submit r
  kickOff? (kickOff launch interrupt) start { d with ledger := ledger }

omit [TransferEngine ε] in
/-- refuses an operation that only the simulated board has -/
def requireSimulator (operation : String) (d : Device ε) : Except Error Unit :=
  if d.config.mode.isSimulator then .ok () else .error (.notSimulator operation)

/-- raises the interrupt of the lowest bit of a map of sources, on the simulated board -/
def simulate (source : UInt32) (d : Device ε) : Result ε (Except Error InterruptOutcome) :=
  match (do d.requireSimulator "simulate_irq"; d.router.irqForSource source) with
  | .error e => (.error e, d, {})
  | .ok irq => d.interrupt irq

end Device
end BoardDriver
