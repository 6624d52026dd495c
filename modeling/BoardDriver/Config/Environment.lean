/-
Settings from environment variables.

A variable that is set overrides one setting of the simulator's; one whose bytes are not UTF-8 counts as unset. The
mode is looked at first, then the address, the timeout and the queue depth; the first fault ends the reading. What has
been read must be valid as a whole.
-/
import BoardDriver.Config
import BoardDriver.Text.Blank

namespace BoardDriver

/-- the bytes of each environment variable that is set -/
def Environment : Type := String → Option ByteArray

namespace Environment

def modeName : String := "FPGABUS_MODE"
def addressName : String := "FPGABUS_PCIE_ADDR"
def timeoutName : String := "FPGABUS_DMA_TIMEOUT_MS"
def depthName : String := "FPGABUS_EVENT_DEPTH"

def text? (env : Environment) (name : String) : Option String :=
  (env name).bind String.fromUTF8?

/-- a decimal number of 64 bits with white space around it -/
def number (name text : String) : Except Error Nat :=
  match Numeral.parseDigits 10 UInt64.size (Text.trim text.toList) with
  | .ok n => .ok n
  | .error _ => .error (.invalidArgument (.notNumber name text))

def mode (name word : String) : Except Error Mode :=
  match Mode.ofName? word with
  | some m => .ok m
  | none => .error (.invalidArgument (.unknownMode name word))

/-- a variable that is set, read by `f`; `unset` if it is not -/
def setting {α : Type} (env : Environment) (name : String) (f : String → String → Except Error α) (unset : α) :
    Except Error α :=
  match env.text? name with
  | some text => f name text
  | none => .ok unset

end Environment

/-- the settings that the environment asks for -/
def Config.ofEnvironment (env : Environment) : Except Error Config := do
  let mode ← env.setting Environment.modeName Environment.mode simulator.mode
  let timeout ← env.setting Environment.timeoutName Environment.number simulator.dmaTimeout
  let depth ← env.setting Environment.depthName Environment.number simulator.eventDepth
  let config : Config :=
    { simulator with
      mode := mode
      pcieAddress := env.text? Environment.addressName
      dmaTimeout := timeout
      eventDepth := depth }
  config.validate
  return config

end BoardDriver
