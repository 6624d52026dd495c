/-
Counters of what the device did.

The counters have 64 bits and wrap. While tracking is on, each transfer that took measurable time also gives a speed:
the last one is kept, and a running mean in which the newest weighs one eighth. A mean of 0 stands for no sample yet.
-/
import BoardDriver.Event.Basic
import BoardDriver.Transfer.Descriptor

namespace BoardDriver

structure DirectionCounters where
  buffers : UInt64 := 0
  bytes : UInt64 := 0
  /-- bytes per second of the latest sample -/
  speedLast : Nat := 0
  /-- running mean of the samples -/
  speedMean : Nat := 0
  deriving DecidableEq, Repr

/-- counters of a device; `read` counts transfers up, `write` those down -/
structure Statistics where
  tracking : Bool := false
  opens : UInt64 := 0
  releases : UInt64 := 0
  polls : UInt64 := 0
  controls : UInt64 := 0
  read : DirectionCounters := {}
  write : DirectionCounters := {}
  deriving DecidableEq, Repr

/-- bytes per second, if the time can be measured and the speed fits 64 bits -/
def speed? (bytes : Nat) (elapsed : Duration) : Option Nat :=
  let speed := bytes * 1000000000 / elapsed.nanoseconds
  if elapsed.nanoseconds = 0 ∨ UInt64.size ≤ speed then none else some speed

namespace DirectionCounters

/-- the greatest speed that can be kept -/
def speedLimit : Nat := UInt64.size - 1

/-- the running mean after a sample -/
def mixed (mean speed : Nat) : Nat :=
  if mean = 0 then speed else min (min (mean * 7) speedLimit + speed) speedLimit / 8

def sample (c : DirectionCounters) (speed : Nat) : DirectionCounters :=
  { c with speedLast := speed, speedMean := mixed c.speedMean speed }

/-- counts a transfer -/
def record (c : DirectionCounters) (bytes : UInt32) (elapsed : Duration) (tracking : Bool) : DirectionCounters :=
  let c := { c with buffers := c.buffers + 1, bytes := c.bytes + bytes.toUInt64 }
  if tracking then
    match speed? bytes.toNat elapsed with
    | some speed => c.sample speed
    | none => c
  else c

end DirectionCounters

namespace Statistics

def counters (s : Statistics) : Direction → DirectionCounters
  | .up => s.read
  | .down => s.write

def setTracking (s : Statistics) (on : Bool) : Statistics := { s with tracking := on }

def recordOpen (s : Statistics) : Statistics := { s with opens := s.opens + 1 }

def recordRelease (s : Statistics) : Statistics := { s with releases := s.releases + 1 }

def recordPoll (s : Statistics) : Statistics := { s with polls := s.polls + 1 }

def recordControl (s : Statistics) : Statistics := { s with controls := s.controls + 1 }

def recordTransfer (s : Statistics) (direction : Direction) (bytes : UInt32) (elapsed : Duration) : Statistics :=
  match direction with
  | .up => { s with read := s.read.record bytes elapsed s.tracking }
  | .down => { s with write := s.write.record bytes elapsed s.tracking }

private def speedText (speed : Nat) : String :=
  toString (speed / 1024) ++ " kB/s"

def lines (s : Statistics) : List String :=
  ["opens:            " ++ toString s.opens.toNat,
   "releases:         " ++ toString s.releases.toNat,
   "polls:            " ++ toString s.polls.toNat,
   "controls:         " ++ toString s.controls.toNat,
   "read buffers:     " ++ toString s.read.buffers.toNat,
   "read bytes:       " ++ toString s.read.bytes.toNat,
   "write buffers:    " ++ toString s.write.buffers.toNat,
   "write bytes:      " ++ toString s.write.bytes.toNat] ++
  if s.tracking then
    ["read speed last:  " ++ speedText s.read.speedLast,
     "read speed avg:   " ++ speedText s.read.speedMean,
     "write speed last: " ++ speedText s.write.speedLast,
     "write speed avg:  " ++ speedText s.write.speedMean]
  else ["speed tracking:   disabled"]

def text (s : Statistics) : String :=
  "\n".intercalate s.lines

end Statistics
end BoardDriver
