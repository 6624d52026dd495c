/-
The simulated board's registers: each has a value and a mode, and the mode says whether user space may read or write it
and whether such an access is reported as an event.

Offset `o` addresses register `o / 4`, so four offsets share each register. An access that is refused changes nothing.
-/
import BoardDriver.Register.Backend
import BoardDriver.Board.Layout
import BoardDriver.Board.RegisterMap

namespace BoardDriver

structure Register where
  value : UInt32 := 0
  mode : UInt32 := RegisterMode.initial
  deriving DecidableEq, Repr, Inhabited

/-- whether the mode has the bit -/
def Register.allows (r : Register) (bit : UInt32) : Bool :=
  r.mode &&& bit != 0

/-- the registers of one simulated BAR -/
structure RegisterFile where
  bar : Nat
  registers : Array Register
  deriving DecidableEq, Repr

namespace RegisterFile

/-- `count` fresh registers for a BAR -/
def fresh (bar count : Nat) : RegisterFile :=
  { bar := wordSize bar, registers := Array.replicate count {} }

def size (f : RegisterFile) : Nat :=
  wordSize (f.registers.size * registerBytes)

/-- index of the register at an offset -/
def indexOf (offset : UInt32) : Nat :=
  offset.toNat / registerBytes

def register (f : RegisterFile) (offset : UInt32) : Except Error Register :=
  match f.registers[indexOf offset]? with
  | some r => .ok r
  | none => .error (.outOfRange offset.toNat f.size)

def mode (f : RegisterFile) (offset : UInt32) : Except Error UInt32 :=
  (f.register offset).map Register.mode

def put (f : RegisterFile) (offset : UInt32) (r : Register) : RegisterFile :=
  { f with registers := f.registers.setIfInBounds (indexOf offset) r }

/-- reads a register, and reports it if its mode says so -/
def read (offset : UInt32) : Action RegisterFile UInt32 := fun f =>
  match f.register offset with
  | .error e => { result := .error e, state := f }
  | .ok r =>
    if r.allows RegisterMode.readable then
      { result := .ok r.value, state := f,
        events := if r.allows RegisterMode.readEvent then
          [.ofPayload (.registerRead { bar := f.bar, offset := offset, value := r.value })] else [] }
    else { result := .error (.backend (.notReadable f.bar offset)), state := f }

/-- writes a register, and reports it if its mode says so -/
def write (offset value : UInt32) : Action RegisterFile Unit := fun f =>
  match f.register offset with
  | .error e => { result := .error e, state := f }
  | .ok r =>
    if r.allows RegisterMode.writable then
      { result := .ok (), state := f.put offset { r with value := value },
        events := if r.allows RegisterMode.writeEvent then
          [.ofPayload (.registerWrite { bar := f.bar, offset := offset, value := value })] else [] }
    else { result := .error (.backend (.notWritable f.bar offset)), state := f }

def setMode (offset mode : UInt32) : Action RegisterFile Unit := fun f =>
  match f.register offset with
  | .error e => { result := .error e, state := f }
  | .ok r => { result := .ok (), state := f.put offset { r with mode := mode } }

def summary (f : RegisterFile) : String :=
  "SimulatedBank \x7b bar: " ++ toString f.bar ++ ", registers: " ++ toString f.registers.size ++ ", .. \x7d"

instance : RegisterBackend RegisterFile where
  kind _ := .simulated
  size := size
  read := read
  write := write
  setMode := setMode

end RegisterFile
end BoardDriver
