/-
Carrying out an invocation: a device is built for it, the task runs on the device, and what is printed comes out as
lines. What was printed before a failure stays printed.
-/
import BoardDriver.CommandLine.Help
import BoardDriver.Device.Session
import BoardDriver.Text.Tenths

namespace BoardDriver.CommandLine

/-- the settings that an invocation asks for; without a board's address they are the simulator's -/
def Invocation.config (i : Invocation) : Config :=
  let config :=
    match i.pcieAddress, i.membusBase with
    | some address, _ =>
      let config := Config.pcie address i.irqBase
      if i.fvd then { config with mode := .fvd } else config
    | none, some base => { Config.simulator with mode := .membus, membusBase := some base, irqBase := i.irqBase }
    | none, none => Config.simulator
  match i.timeout with
  | some n => { config with dmaTimeout := n }
  | none => config

/-- an engine that is never given: the board's own starts the transfers -/
inductive NoEngine where
  deriving DecidableEq, Repr

instance : TransferEngine NoEngine where
  start _ := Action.pure ()
  raises _ _ := []

/-- a device whose board starts its own transfers -/
abbrev Board : Type := Device NoEngine

/-- why a task ends early -/
inductive TaskFault where
  | device (e : Error)
  | unexpectedOutcome (o : InterruptOutcome)
  deriving DecidableEq, Repr

/-- the outcome of an interrupt in a line of text -/
def outcomeText : InterruptOutcome → String
  | .dmaDone r => "DmaDone(" ++ r.ticket.text ++ ")"
  | .spurious => "Spurious"
  | .forwarded source => "Forwarded \x7b source: " ++ toString source.toNat ++ " \x7d"

def TaskFault.message : TaskFault → String
  | device e => e.message
  | unexpectedOutcome o => "unexpected interrupt outcome: " ++ outcomeText o

/-- what a task leaves behind: the lines it printed, the device, and why it ended early if it did -/
structure TaskResult where
  lines : List String := []
  device : Board
  fault : Option TaskFault := none

/-- a result with one more line before the others -/
def TaskResult.prepend (line : String) (r : TaskResult) : TaskResult := { r with lines := line :: r.lines }

namespace Task

def registerLine (bar : Nat) (offset : Nat) (sign : String) (value : UInt32) : String :=
  "BAR" ++ toString bar ++ "[" ++ Numeral.hexPadded 6 offset ++ "] " ++ sign ++ " " ++
    Numeral.hexPadded 10 value.toNat

def bankLine (bar : Nat) (b : RegisterBank BoardBackend) : String :=
  "BAR" ++ toString bar ++ "  " ++
    match b.kind with
    | some kind => Numeral.alignRight 6 (toString b.size) ++ " bytes  " ++ kind.name
    | none => "(disabled)"

def infoLines (d : Board) : List String :=
  [d.info, ""] ++
  ((List.range barCount).filterMap fun bar => (d.table.bank? bar).map (bankLine bar)) ++
  [""] ++ d.ledger.scheduler.status.lines

/-- microseconds to the nearest tenth, of what floating point makes of them -/
def microseconds (t : Duration) : String :=
  Text.toOneDigit (t.inSeconds * (1000000 : UInt32).toFloat) ++ " µs"

def transferLine (ticket : Ticket) (direction : Direction) (length : UInt32) (elapsed : Duration) : String :=
  "ticket " ++ ticket.text ++ "  " ++ direction.name ++ "  " ++ toString length.toNat ++ " bytes  " ++
    microseconds elapsed

/-- runs transfers `index`, `index + 1`, … of a series, `count` of them. Each moves the addresses by the bytes of those
before it. The simulated board has no hardware, so the completion is raised for it. -/
def transfer (s : Session) (length : UInt32) (direction : Direction) (system device : UInt32) :
    Nat → Nat → Board → TaskResult
  | _, 0, d => { device := d }
  | index, count + 1, d =>
    let shift := UInt32.ofNat index * length
    match d.submitTransfer s direction (system + shift) (device + shift) length true with
    | (.error e, d, _) => { device := d, fault := some (.device e) }
    | (.ok (_, none), d, _) => { device := d }
    | (.ok (_, some handle), d, _) =>
      let (raised, d) :=
        if d.config.mode.isSimulator then
          match d.simulateFor (sourceOfVector 0) with
          | (.ok (.dmaDone _), d, _) => (none, d)
          | (.ok o, d, _) => (some (.unexpectedOutcome o), d)
          | (.error e, d, _) => (some (.device e), d)
        else (none, d)
      match raised, d.await handle with
      | some fault, _ => { device := d, fault := some fault }
      | none, .error e => { device := d, fault := some (.device e) }
      | none, .ok ticket =>
        TaskResult.prepend (transferLine ticket direction length (d.elapsed ticket))
          (transfer s length direction system device (index + 1) count d)

/-- runs a series of transfers in a session of its own -/
def transfers (count : Nat) (length : UInt32) (direction : Direction) (system device : UInt32) (d : Board) :
    TaskResult :=
  let (s, d) := d.openSession
  let d := d.setEventMask s EventKind.dmaDone.bit
  let r := transfer s length direction system device 0 count d
  match r.fault with
  | some _ => { r with device := r.device.closeSession s }
  | none =>
    let (events, d) := r.device.drainEvents s
    { lines := r.lines ++ [toString events.length ++ " dma-done event(s) delivered"], device := d.closeSession s }

/-- runs an operation of a session of its own -/
def inSession {α : Type} (operation : Session → Board → Except Error α × Board) (print : α → List String) (d : Board) :
    TaskResult :=
  let (s, d) := d.openSession
  let (answer, d) := operation s d
  let d := d.closeSession s
  match answer with
  | .ok a => { lines := print a, device := d }
  | .error e => { device := d, fault := some (.device e) }

/-- raises an interrupt on the simulated board, and listens to everything meanwhile -/
def raise (source : UInt32) (s : Session) (d : Board) : Except Error (InterruptOutcome × List Event) × Board :=
  let d := d.setEventMask s EventKind.all
  let d := d.setForwardingMask s 0xffffffff
  let (answer, d, _) := d.simulateFor source
  match answer with
  | .error e => (.error e, d)
  | .ok outcome =>
    let (events, d) := d.drainEvents s
    (.ok (outcome, events), d)

def run (d : Board) : Task → TaskResult
  | info => { lines := infoLines d, device := d }
  | read bar offset count =>
    inSession (fun _ => Device.readRegisterRange bar offset count)
      (fun values =>
        (List.range values.length).zipWith
          (fun i value => registerLine bar (offset + UInt32.ofNat i * UInt32.ofNat registerBytes).toNat "=" value)
          values) d
  | write bar offset value =>
    inSession (fun _ => Device.writeRegister bar offset value) (fun _ => [registerLine bar offset.toNat "<-" value]) d
  | modify bar offset clear set =>
    inSession (fun _ => Device.modifyRegister bar offset clear set)
      (fun value => [registerLine bar offset.toNat "=" value]) d
  | dma count length direction system device => transfers count length direction system device d
  | irq source =>
    inSession (raise source)
      (fun (outcome, events) => outcomeText outcome :: events.map fun e => "  " ++ e.payload.text) d
  | stats count =>
    let d := d.setTracking true
    let r := if 0 < count then transfers count 4096 .down 0 0 d else { device := d }
    match r.fault with
    | some _ => r
    | none => { r with lines := r.lines ++ r.device.statistics.lines }

end Task

/-- what the program leaves behind: its exit code, the lines it printed, and the files of the board -/
structure Report where
  code : UInt8 := 0
  output : List String := []
  errors : List String := []
  files : List (String × Memory) := []
  deriving DecidableEq, Repr

namespace Report

def ofUsageFault (f : UsageFault) : Report :=
  { code := 2, errors := ["error: " ++ f.message, "", "For more information, try '--help'."] }

/-- what the program answers in place of doing something -/
def ofNotice : Invocation.Notice → Report
  | .help none _ => { output := Help.ofProgram }
  | .help (some c) inFull => { output := Help.ofCommand c inFull }
  | .helpOfHelp => { output := Help.ofHelp }
  | .version => { output := [Help.versionLine] }
  | .idle => { code := 2, errors := Help.ofProgram }
  | .fault f => ofUsageFault f

def file? (b : RegisterBank BoardBackend) : Option (String × Memory) :=
  match b.backend with
  | some (.mapped w) | some (.memoryBus w) => some (w.path, w.file)
  | _ => none

/-- what an invocation comes to -/
def ofInvocation (files : HostFiles) (i : Invocation) : Report :=
  match (Device.build files i.config none : Except Error Board) with
  | .error e => { code := 1, errors := ["Error: opening device", "", "Caused by:", "    " ++ e.message] }
  | .ok d =>
    let r := i.task.run d
    let files := r.device.table.banks.filterMap file?
    match r.fault with
    | none => { output := r.lines, files := files }
    | some fault => { code := 1, output := r.lines, errors := ["Error: " ++ fault.message], files := files }

def ofArguments (files : HostFiles) (arguments : List String) : Report :=
  match Invocation.ofArguments arguments with
  | .error notice => ofNotice notice
  | .ok i => ofInvocation files i

end Report
end BoardDriver.CommandLine
