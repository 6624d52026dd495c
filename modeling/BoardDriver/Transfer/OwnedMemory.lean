/-
The simulated board's memory: a window of bytes that one session at a time owns, and with which it exchanges buffers.

Only the owner reaches the window. A transfer that does not fit into it changes nothing.
-/
import BoardDriver.Error
import BoardDriver.Transfer.Descriptor
import BoardDriver.Transfer.Ticket

namespace BoardDriver

/-- a window of memory and its owner -/
structure OwnedWindow where
  owner : Cookie
  bytes : Array UInt8
  deriving DecidableEq, Repr

/-- the memory of the simulated board, with a window or without -/
structure OwnedMemory where
  window : Option OwnedWindow := none
  deriving DecidableEq, Repr

namespace OwnedMemory

def size? (m : OwnedMemory) : Option Nat :=
  m.window.map fun w => w.bytes.size

/-- a new window of zeros, in place of the one before -/
def setup (m : OwnedMemory) (owner : Cookie) (size : Nat) : Except Error Unit × OwnedMemory :=
  if size = 0 then (.error (.invalidArgument .emptyMemory), m)
  else (.ok (), { window := some { owner := owner, bytes := Array.replicate size 0 } })

/-- where a span of bytes at an offset ends, if its end is a 64-bit number and not past the size -/
def spanEnd? (size offset length : Nat) : Option Nat :=
  (if offset + length < UInt64.size then some (offset + length) else none).filter (· ≤ size)

theorem spanEnd?_eq_some_iff (size offset length stop : Nat) :
    spanEnd? size offset length = some stop ↔ stop = offset + length ∧ stop ≤ size ∧ stop < UInt64.size := by
  unfold spanEnd?
  split <;> simp [Option.filter_eq_some_iff] <;> omega

theorem spanEnd?_eq_none_iff (size offset length : Nat) :
    spanEnd? size offset length = none ↔ size < offset + length ∨ UInt64.size ≤ offset + length := by
  unfold spanEnd?
  split <;> simp [Option.filter_eq_none_iff] <;> omega

/-- exchanges a buffer with the window at an offset: down copies the buffer in, up fills it. Leaves the answer, the
buffer and the memory. -/
def exchange (m : OwnedMemory) (caller : Cookie) (direction : Direction) (offset : Nat) (buffer : Array UInt8) :
    Except Error Unit × Array UInt8 × OwnedMemory :=
  match m.window with
  | none => (.error (.invalidArgument .noMemory), buffer, m)
  | some w =>
    if w.owner ≠ caller then (.error (.notOwner "simulator memory"), buffer, m)
    else
      match spanEnd? w.bytes.size offset buffer.size with
      | none => (.error (.outOfRange (min (offset + buffer.size) (UInt64.size - 1)) w.bytes.size), buffer, m)
      | some stop =>
        match direction with
        | .down =>
          let bytes := w.bytes.extract 0 offset ++ buffer ++ w.bytes.extract stop w.bytes.size
          (.ok (), buffer, { window := some { w with bytes := bytes } })
        | .up => (.ok (), w.bytes.extract offset stop, m)

/-- an exchange as its caller is told of it: with the buffer afterwards, if it went well -/
def transfer (m : OwnedMemory) (caller : Cookie) (direction : Direction) (offset : Nat) (buffer : Array UInt8) :
    Except Error (Array UInt8) × OwnedMemory :=
  let (answer, buffer, memory) := m.exchange caller direction offset buffer
  (answer.map fun () => buffer, memory)

/-- gives the window up if the caller owns it; tells whether it did -/
def release (m : OwnedMemory) (owner : Cookie) : Bool × OwnedMemory :=
  if m.window.any fun w => w.owner == owner then (true, {}) else (false, m)

end OwnedMemory
end BoardDriver
