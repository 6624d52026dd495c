/-
What the program is asked to do, and how a command line says so.

The general options may stand before the name of the command and after it. Each of the two levels is read on its own,
the inner one first; what the inner level gives overrides the outer one.
-/
import BoardDriver.CommandLine.Level

namespace BoardDriver.CommandLine

inductive CommandName where
  | info
  | read
  | write
  | modify
  | dma
  | irq
  | stats
  deriving DecidableEq, Repr

namespace CommandName

def all : List CommandName := [info, read, write, modify, dma, irq, stats]

def name : CommandName → String
  | info => "info"
  | read => "read"
  | write => "write"
  | modify => "modify"
  | dma => "dma"
  | irq => "irq"
  | stats => "stats"

/-- one line for the description of the program -/
def summary : CommandName → String
  | info => "Print device, BAR and DMA scheduler information"
  | read => "Read one or more consecutive registers"
  | write => "Write one register"
  | modify => "Clear then set bits in one register"
  | dma => "Run DMA transfers and report their completion times"
  | irq => "Raise a simulated interrupt for an event source bit mask"
  | stats => "Print transfer statistics after an optional DMA run"

def ofName? (word : String) : Option CommandName :=
  all.find? fun c => c.name == word

private def bar : Parameter :=
  { name := "bar", shape := .positional, kind := .count, summary := "BAR index (0-5)" }

private def offset : Parameter :=
  { name := "offset", shape := .positional, kind := .word, summary := "Byte offset" }

def parameters : CommandName → List Parameter
  | info => []
  | read =>
    [bar, { offset with summary := "Byte offset (hex with 0x prefix accepted)" },
     { name := "count", letter := some 'n', kind := .count, summary := "Number of registers", initial := some "1" }]
  | write =>
    [bar, offset, { name := "value", shape := .positional, kind := .word, summary := "Value to write" }]
  | modify =>
    [bar, offset,
     { name := "clear", kind := .word, summary := "Bits to clear", initial := some "0" },
     { name := "set", kind := .word, summary := "Bits to set", initial := some "0" }]
  | dma =>
    [{ name := "transfers", kind := .count, summary := "Number of transfers", initial := some "4" },
     { name := "len", kind := .count, summary := "Bytes per transfer", initial := some "4096" },
     { name := "direction", kind := .direction, summary := "Transfer direction", initial := some "down" },
     { name := "system", kind := .word, summary := "System-side bus address", initial := some "0" },
     { name := "device", kind := .word, summary := "Device-side address", initial := some "0" }]
  | irq =>
    [{ name := "source", shape := .positional, kind := .word, summary := "Source bit (e.g. 0x1 for DMA channel 0)" }]
  | stats =>
    [{ name := "transfers", kind := .count, summary := "Transfers to run first (simulator only)", initial := some "0" }]

end CommandName

/-! The general options. -/

def pcieOption : Parameter :=
  { name := "pcie", summary := "PCIe address of the board (e.g. 0000:03:00.0); selects PCIe mode" }

def membusOption : Parameter :=
  { name := "membus", kind := .address, summary := "Physical base address of chip select 0; selects memory-bus mode" }

def fvdFlag : Parameter :=
  { name := "fvd", shape := .flag, summary := "Use the FVD register layout (DMA on BAR3). Requires --pcie" }

def irqBaseOption : Parameter :=
  { name := "irq-base", kind := .count, summary := "First interrupt number of the board's MSI block",
    initial := some "1" }

def timeoutOption : Parameter :=
  { name := "timeout-ms", kind := .longCount, summary := "DMA completion timeout in milliseconds" }

/-- the options of every level -/
def generalOptions : List Parameter :=
  [pcieOption, membusOption, fvdFlag, irqBaseOption, timeoutOption]

def helpFlag : Parameter :=
  { name := "help", shape := .help, letter := some 'h', summary := "Print help" }

def versionFlag : Parameter :=
  { name := "version", shape := .version, letter := some 'V', summary := "Print version" }

/-- word that asks for the description of a command -/
def helpWord : String := "help"

/-- what may stand before the name of the command -/
def outerLevel : Level :=
  { parameters := generalOptions ++ [helpFlag, versionFlag]
    commands := CommandName.all.map CommandName.name ++ [helpWord] }

/-- what may stand after the name of the command -/
def innerLevel (c : CommandName) : Level :=
  { parameters := c.parameters ++ generalOptions ++ [helpFlag] }

namespace Given

def value? (g : Given) (name : String) : Option Value :=
  (g.find? fun e => e.1.name == name).map Prod.snd

def has (g : Given) (p : Parameter) : Bool := (value? g p.name).isSome

def text? (g : Given) (name : String) : Option String :=
  match value? g name with
  | some (.text s) => some s
  | _ => none

def number? (g : Given) (name : String) : Option Nat :=
  match value? g name with
  | some (.number n) => some n
  | _ => none

/-- the number given for a parameter, or its initial value -/
def number (g : Given) (name : String) (initial : Nat) : Nat :=
  (number? g name).getD initial

/-- the number given for a parameter, or its initial value, in 32 bits -/
def word (g : Given) (name : String) (initial : Nat) : UInt32 :=
  UInt32.ofNat (number g name initial)

def direction (g : Given) (name : String) (initial : Direction) : Direction :=
  match value? g name with
  | some (.direction d) => d
  | _ => initial

/-- what the parameters of a level have against each other: the two ways to the board exclude each other, the flag for
the register layout needs an address, and every positional parameter must be there -/
def check (g : Given) (l : Level) : Except UsageFault Unit :=
  match g.filterMap fun e => if e.1 = pcieOption ∨ e.1 = membusOption then some e.1 else none with
  | p :: q :: _ => .error (.conflict p q)
  | _ =>
    let layout := if has g fvdFlag ∧ ¬ has g pcieOption ∧ ¬ has g membusOption then [pcieOption] else []
    let absent := l.parameters.filter fun p => p.shape == .positional && !has g p
    match absent ++ layout with
    | [] => .ok ()
    | missing => .error (.missing missing)

end Given

inductive Task where
  | info
  | read (bar : Nat) (offset : UInt32) (count : Nat)
  | write (bar : Nat) (offset value : UInt32)
  | modify (bar : Nat) (offset clear set : UInt32)
  | dma (transfers : Nat) (length : UInt32) (direction : Direction) (system device : UInt32)
  | irq (source : UInt32)
  | stats (transfers : Nat)
  deriving DecidableEq, Repr

def CommandName.task (c : CommandName) (g : Given) : Task :=
  match c with
  | .info => .info
  | .read => .read (g.number "bar" 0) (g.word "offset" 0) (g.number "count" 1)
  | .write => .write (g.number "bar" 0) (g.word "offset" 0) (g.word "value" 0)
  | .modify => .modify (g.number "bar" 0) (g.word "offset" 0) (g.word "clear" 0) (g.word "set" 0)
  | .dma =>
    .dma (g.number "transfers" 4) (g.word "len" 4096) (g.direction "direction" .down) (g.word "system" 0)
      (g.word "device" 0)
  | .irq => .irq (g.word "source" 0)
  | .stats => .stats (g.number "transfers" 0)

/-- what the program is asked to do -/
structure Invocation where
  pcieAddress : Option String := none
  membusBase : Option Nat := none
  fvd : Bool := false
  irqBase : UInt32 := 1
  timeout : Option Nat := none
  task : Task
  deriving DecidableEq, Repr

namespace Invocation

def ofGiven (c : CommandName) (inner outer : Given) : Invocation :=
  let g : Given := inner ++ outer
  { pcieAddress := g.text? pcieOption.name
    membusBase := g.number? membusOption.name
    fvd := g.has fvdFlag
    irqBase := g.word irqBaseOption.name 1
    timeout := g.number? timeoutOption.name
    task := c.task inner }

/-- what the program answers in place of doing something -/
inductive Notice where
  /-- the description of a command, or of the program -/
  | help (c : Option CommandName) (inFull : Bool)
  /-- the description of the word that asks for descriptions -/
  | helpOfHelp
  | version
  /-- nothing was asked for -/
  | idle
  | fault (f : UsageFault)
  deriving DecidableEq, Repr

/-- the notice that ends the reading of a level -/
def Notice.ofHalt (c : Option CommandName) : Halt → Notice
  | .help inFull => .help c inFull
  | .version => .version
  | .fault f => .fault f

/-- what the words after `help` ask for -/
def helpFor : List String → Notice
  | [] => .help none true
  | word :: rest =>
    match CommandName.ofName? word, rest with
    | some c, [] => .help (some c) true
    | some _, extra :: _ => .fault (.unknownCommand extra)
    | none, [] => if word = helpWord then .helpOfHelp else .fault (.unknownCommand word)
    | none, extra :: _ => .fault (.unknownCommand (if word = helpWord then extra else word))

/-- looks at the last value of a level, and at the level as a whole -/
def finish (l : Level) (s : Progress) : Except UsageFault Given := do
  let s ← s.settle
  s.given.check l
  return s.given

/-- the invocation that a command line asks for -/
def ofArguments (arguments : List String) : Except Notice Invocation := do
  let (outer, command) ← (outerLevel.read arguments outerLevel.start).mapError (Notice.ofHalt none)
  match command with
  | none =>
    let s ← outer.settle.mapError .fault
    throw (if s.given.isEmpty then .idle else .fault .noCommand)
  | some (word, rest) =>
    match CommandName.ofName? word with
    | none => throw (helpFor rest)
    | some c =>
      let l := innerLevel c
      let (inner, _) ← (l.read rest l.start).mapError (Notice.ofHalt (some c))
      let inner ← (finish l inner).mapError .fault
      let outer ← (finish outerLevel outer).mapError .fault
      return ofGiven c inner outer

end Invocation
end BoardDriver.CommandLine
