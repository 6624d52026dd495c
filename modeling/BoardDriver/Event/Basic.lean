/-
Events: what happened on the board, told to the sessions that asked for it.

An event is a value. The registry stamps it as produced when it is published, and a subscriber stamps its copy as
delivered when a reader takes it.
-/
import BoardDriver.Transfer.Ticket

namespace BoardDriver

/-- a length of time, in whole nanoseconds -/
structure Duration where
  nanoseconds : Nat
  deriving DecidableEq, Repr, Inhabited

namespace Duration

/-- a length given in seconds and nanoseconds -/
def ofParts (seconds nanoseconds : Nat) : Duration :=
  ⟨seconds * 1000000000 + nanoseconds⟩

def ofMilliseconds (n : Nat) : Duration :=
  ⟨n * 1000000⟩

def seconds (d : Duration) : Nat := d.nanoseconds / 1000000000

/-- nanoseconds past the last whole second -/
def subsecond (d : Duration) : Nat := d.nanoseconds % 1000000000

def milliseconds (d : Duration) : Nat := d.nanoseconds / 1000000

def microseconds (d : Duration) : Nat := d.nanoseconds / 1000

/-- seconds as a floating-point number; the whole seconds have 64 bits -/
def inSeconds (d : Duration) : Float :=
  (UInt64.ofNat d.seconds).toFloat + (UInt32.ofNat d.subsecond).toFloat / (1000000000 : UInt32).toFloat

end Duration

inductive EventKind where
  | interrupt
  | registerWrite
  | registerRead
  | dmaDone
  deriving DecidableEq, Repr

namespace EventKind

/-- the bit that enables the kind in a subscriber's mask -/
def bit : EventKind → UInt32
  | interrupt => 1
  | registerWrite => 2
  | registerRead => 4
  | dmaDone => 8

def name : EventKind → String
  | interrupt => "irq"
  | registerWrite => "write-regb"
  | registerRead => "read-regb"
  | dmaDone => "dma-done"

/-- the mask that enables every kind -/
def all : UInt32 :=
  interrupt.bit ||| registerWrite.bit ||| registerRead.bit ||| dmaDone.bit

end EventKind

/-- how many events a session's queue holds unless it is configured otherwise -/
def defaultEventDepth : Nat := 20

/-- how many events wait for publication unless it is configured otherwise -/
def defaultDispatchPool : Nat := 20

structure RegisterAccess where
  bar : Nat
  offset : UInt32
  value : UInt32
  deriving DecidableEq, Repr

/-- what happened -/
inductive Payload where
  | interrupt (source : UInt32)
  | registerWrite (access : RegisterAccess)
  | registerRead (access : RegisterAccess)
  | dmaDone (ticket : Ticket) (elapsed : Duration) (cookie : Cookie)
  deriving DecidableEq, Repr

namespace Payload

def kind : Payload → EventKind
  | interrupt _ => .interrupt
  | registerWrite _ => .registerWrite
  | registerRead _ => .registerRead
  | dmaDone .. => .dmaDone

/-- the transfer that is done, if it is one -/
def ticket? : Payload → Option Ticket
  | dmaDone ticket _ _ => some ticket
  | _ => none

/-- the owner of the transfer that is done, if it is one -/
def cookie? : Payload → Option Cookie
  | dmaDone _ _ cookie => some cookie
  | _ => none

private def accessText (a : RegisterAccess) : String :=
  " BAR" ++ toString a.bar ++ " @ " ++ Numeral.hexPadded 6 a.offset.toNat ++ " = " ++
    Numeral.hexPadded 10 a.value.toNat

def text (p : Payload) : String :=
  p.kind.name ++
    match p with
    | interrupt source => " source=" ++ Numeral.hexPadded 10 source.toNat
    | registerWrite a | registerRead a => accessText a
    | dmaDone ticket elapsed cookie =>
      " ticket=" ++ ticket.text ++ " cookie=" ++ cookie.text ++ " time=" ++ toString elapsed.microseconds ++ "us"

end Payload

/-- a payload and the stamps it has been given -/
structure Event where
  payload : Payload
  produced : Bool := false
  delivered : Bool := false
  deriving DecidableEq, Repr

namespace Event

/-- an event that nobody has stamped -/
def ofPayload (p : Payload) : Event := { payload := p }

/-- the event, stamped by its producer -/
def stampProduced (e : Event) : Event := { e with produced := true }

/-- the event, stamped by the reader who takes it -/
def stampDelivered (e : Event) : Event := { e with delivered := true }

end Event
end BoardDriver
