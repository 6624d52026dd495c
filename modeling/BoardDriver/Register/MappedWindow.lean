/-
A window onto a file of the host, mapped into memory, through which the registers of a real board are reached.

Opening a window looks at the file system once: `HostFiles` says what each path names. A window is read and written in
little-endian words at offsets that are multiples of 4; an access must lie inside the window as a whole.
-/
import BoardDriver.Register.Backend
import BoardDriver.Register.Memory
import BoardDriver.Board.Layout

namespace BoardDriver

/-- what a path of the host names -/
inductive HostEntry where
  | file (contents : Memory)
  /-- something that cannot be opened -/
  | closed (fault : HostFault)
  deriving Repr

/-- the host's file system, as far as the driver looks at it -/
def HostFiles : Type := String → Option HostEntry

structure MappedWindow where
  path : String
  /-- position in the file where the window begins -/
  start : Nat
  /-- bytes of the window -/
  extent : Nat
  file : Memory
  deriving DecidableEq, Repr

namespace MappedWindow

/-- windows begin at a multiple of this -/
def pageBytes : Nat := 4096

/-- windows of this many bytes or more do not fit into a process -/
def addressSpace : Nat := 0x800000000000

/-- opens the window of `length` bytes at `offset` of a file; without a length, as many bytes as the file has -/
def ofFile (files : HostFiles) (path : String) (offset : Nat) (length : Option Nat) : Except Error MappedWindow :=
  match files path with
  | none => .error (.deviceNotFound path)
  | some entry =>
    if offset % pageBytes ≠ 0 then .error (.invalidArgument (.unalignedMap offset))
    else
      match entry with
      | .closed fault => .error (.host fault)
      | .file contents =>
        let extent := length.getD contents.length
        if extent = 0 then .error (.invalidArgument (.emptyMap path))
        else if addressSpace ≤ extent then .error (.backend (.outOfMemory path))
        else .ok { path := path, start := offset, extent := extent, file := contents }

/-- number of byte offsets served -/
def size (w : MappedWindow) : Nat := wordSize w.extent

/-- whether a word at the offset may be accessed -/
def check (w : MappedWindow) (offset : UInt32) : Except Error Unit :=
  if offset.toNat % registerBytes ≠ 0 then .error (.invalidArgument (.unalignedRegister offset))
  else if w.extent < offset.toNat + registerBytes then .error (.outOfRange offset.toNat w.size)
  else .ok ()

def read (offset : UInt32) : Action MappedWindow UInt32 := fun w =>
  match w.check offset with
  | .error e => { result := .error e, state := w }
  | .ok () => { result := .ok (w.file.word (w.start + offset.toNat)), state := w }

def write (offset value : UInt32) : Action MappedWindow Unit := fun w =>
  match w.check offset with
  | .error e => { result := .error e, state := w }
  | .ok () => { result := .ok (), state := { w with file := w.file.setWord (w.start + offset.toNat) value } }

instance : RegisterBackend MappedWindow where
  kind _ := .mapped
  size := size
  read := read
  write := write
  setMode _ _ := Action.pure ()

end MappedWindow
end BoardDriver
