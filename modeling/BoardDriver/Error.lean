/-
Everything that can go wrong, as causes. The wording is in `Error.message`, the host's error number in `Error.errno`.

A cause that the driver itself finds has a constructor of its own; `stated` holds a reason that a caller, or a backend
or engine supplied from outside, gave in its own words.
-/
import BoardDriver.Board.Mode
import BoardDriver.Text.Numeral
import BoardDriver.Text.Quoted

namespace BoardDriver

/-- why an argument or a setting is refused -/
inductive Refusal where
  | emptyQueue
  | emptyPool
  | addressNeeded (mode : Mode)
  | baseNeeded
  | addressUnset
  | baseUnset
  | unknownMode (setting word : String)
  | notNumber (setting text : String)
  | unalignedMap (offset : Nat)
  | emptyMap (path : String)
  | unalignedRegister (offset : UInt32)
  | emptyTransfer
  | emptyMemory
  | noMemory
  | emptySource
  | irqOverflow
  | notVector (irq : UInt32)
  | vectorDisabled (vector : Nat)
  | irqTaken (irq : UInt32) (channel : Nat)
  | noChannel (channel : Nat)
  | stated (reason : String)
  deriving DecidableEq, Repr

def Refusal.message : Refusal → String
  | emptyQueue => "event queue depth must be > 0"
  | emptyPool => "dispatch pool size must be > 0"
  | addressNeeded mode => mode.name ++ " mode needs a PCIe address"
  | baseNeeded => "membus mode needs a physical base address"
  | addressUnset => "PCIe address not configured"
  | baseUnset => "membus base not configured"
  | unknownMode setting word => setting ++ ": unknown mode " ++ Text.quoted word
  | notNumber setting text => setting ++ ": not a number: " ++ Text.quoted text
  | unalignedMap offset => "map offset " ++ Numeral.hex offset ++ " is not page aligned"
  | emptyMap path => path ++ " maps zero bytes (device not enabled?)"
  | unalignedRegister offset => "unaligned register offset " ++ Numeral.hex offset.toNat
  | emptyTransfer => "zero-length transfer"
  | emptyMemory => "simulator memory size must be > 0"
  | noMemory => "no simulator memory registered"
  | emptySource => "empty interrupt source"
  | irqOverflow => "irq number overflow"
  | notVector irq => "irq " ++ toString irq.toNat ++ " is not an MSI vector"
  | vectorDisabled vector => "MSI vector " ++ toString vector ++ " is disabled"
  | irqTaken irq channel => "irq " ++ toString irq.toNat ++ " already bound to channel " ++ toString channel
  | noChannel channel => "no DMA channel " ++ toString channel
  | stated reason => reason

/-- why a register backend or a transfer engine fails -/
inductive BackendFault where
  | notReadable (bar : Nat) (offset : UInt32)
  | notWritable (bar : Nat) (offset : UInt32)
  | outOfMemory (path : String)
  | stated (reason : String)
  deriving DecidableEq, Repr

def BackendFault.message : BackendFault → String
  | notReadable bar offset => "BAR" ++ toString bar ++ " @ " ++ Numeral.hex offset.toNat ++ " is not readable"
  | notWritable bar offset => "BAR" ++ toString bar ++ " @ " ++ Numeral.hex offset.toNat ++ " is not writable"
  | outOfMemory path => "mmap " ++ path ++ " failed: Cannot allocate memory (os error 12)"
  | stated reason => reason

/-- what the driver ran out of -/
inductive Shortage where
  | poolExhausted (slots : Nat)
  | stated (what : String)
  deriving DecidableEq, Repr

def Shortage.message : Shortage → String
  | poolExhausted slots => "dispatch pool exhausted (" ++ toString slots ++ " slots)"
  | stated what => what

/-- an error of the host's file system -/
inductive HostFault where
  | isDirectory
  | stated (text : String)
  deriving DecidableEq, Repr

def HostFault.message : HostFault → String
  | isDirectory => "Is a directory (os error 21)"
  | stated text => text

/-- what a driver operation reports when it fails -/
inductive Error where
  | invalidBar (bar : Nat)
  | barDisabled (bar : Nat)
  | permissionDenied (bar : Nat) (access mode : String)
  /-- `offset` is the first invalid one, `limit` the number of valid ones -/
  | outOfRange (offset limit : Nat)
  | spuriousInterrupt (irq : UInt32) (channel : Option Nat)
  | allocationFailure (what : Shortage)
  | timeout (milliseconds : Nat)
  | queueOverflow (depth : Nat)
  | notSimulator (operation : String)
  | notOwner (what : String)
  | invalidArgument (reason : Refusal)
  | backend (fault : BackendFault)
  | deviceNotFound (path : String)
  | host (fault : HostFault)
  deriving DecidableEq, Repr

namespace Error

def message : Error → String
  | invalidBar bar => "Invalid BAR" ++ toString bar
  | barDisabled bar => "BAR" ++ toString bar ++ " is not mapped"
  | permissionDenied bar access mode =>
    "BAR" ++ toString bar ++ " does not permit " ++ access ++ " access in " ++ mode ++ " mode"
  | outOfRange offset limit => "Offset " ++ Numeral.hex offset ++ " out of range (limit " ++ Numeral.hex limit ++ ")"
  | spuriousInterrupt irq channel =>
    "Spurious DMA interrupt " ++ toString irq.toNat ++
      match channel with
      | some c => " on channel " ++ toString c
      | none => ""
  | allocationFailure what => "Allocation failed: " ++ what.message
  | timeout milliseconds => "Operation timeout after " ++ toString milliseconds ++ "ms"
  | queueOverflow depth => "Event queue full (" ++ toString depth ++ " pending), event dropped"
  | notSimulator operation => operation ++ " is only available in simulator mode"
  | notOwner what => what ++ " belongs to another session"
  | invalidArgument reason => "Invalid argument: " ++ reason.message
  | backend fault => "Backend error: " ++ fault.message
  | deviceNotFound path => "Device not found: " ++ path
  | host fault => "I/O error: " ++ fault.message

/-- the host's error number, negative -/
def errno : Error → Int
  | invalidBar _ | spuriousInterrupt .. | notSimulator _ | notOwner _ | invalidArgument _ => -22
  | barDisabled _ | outOfRange .. => -14
  | permissionDenied .. | backend _ => -13
  | allocationFailure _ => -12
  | timeout _ => -110
  | queueOverflow _ => -28
  | deviceNotFound _ => -19
  | host _ => -5

end Error
end BoardDriver
