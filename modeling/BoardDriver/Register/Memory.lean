/-
The contents of a file, byte by byte. Bytes that were never written are zero, so a large file costs only what was
written to it. A mapping may reach past the end of the file inside its last page, so every position has a byte; the
length of the file says which positions are stored.
-/
namespace BoardDriver

structure Memory where
  length : Nat
  /-- positions written and the bytes put there, newest first -/
  written : List (Nat × UInt8) := []
  deriving DecidableEq, Repr

namespace Memory

def zeros (length : Nat) : Memory := { length := length }

def byte (m : Memory) (i : Nat) : UInt8 :=
  (m.written.lookup i).getD 0

def setByte (m : Memory) (i : Nat) (b : UInt8) : Memory :=
  { m with written := (i, b) :: m.written }

/-- the four bytes of a word, lowest first -/
def bytesOfWord (w : UInt32) : List UInt8 :=
  [w.toUInt8, (w >>> 8).toUInt8, (w >>> 16).toUInt8, (w >>> 24).toUInt8]

/-- the word whose lowest byte is the first of the four -/
def wordOfBytes (b0 b1 b2 b3 : UInt8) : UInt32 :=
  b0.toUInt32 ||| b1.toUInt32 <<< 8 ||| b2.toUInt32 <<< 16 ||| b3.toUInt32 <<< 24

/-- the little-endian word at a position -/
def word (m : Memory) (i : Nat) : UInt32 :=
  wordOfBytes (m.byte i) (m.byte (i + 1)) (m.byte (i + 2)) (m.byte (i + 3))

/-- puts bytes at consecutive positions -/
def setBytes (m : Memory) (i : Nat) : List UInt8 → Memory
  | [] => m
  | b :: rest => (m.setByte i b).setBytes (i + 1) rest

def setWord (m : Memory) (i : Nat) (w : UInt32) : Memory :=
  m.setBytes i (bytesOfWord w)

/-- a file of zeros with words written to it; a word past the end makes the file as long as the word needs -/
def ofWords (length : Nat) (words : List (Nat × UInt32)) : Memory :=
  words.foldl (fun m (i, w) => { m.setWord i w with length := max m.length (i + 4) }) (zeros length)

/-- the stored bytes that are not zero, with their positions in rising order -/
def nonzero (m : Memory) : List (Nat × UInt8) :=
  let positions := (m.written.map Prod.fst).eraseDups.filter fun i => i < m.length && m.byte i != 0
  (positions.mergeSort (· ≤ ·)).map fun i => (i, m.byte i)

theorem byte_setByte (m : Memory) (i j : Nat) (b : UInt8) :
    (m.setByte i b).byte j = if j = i then b else m.byte j := by
  simp only [byte, setByte, List.lookup_cons]
  by_cases h : j = i
  · simp [h]
  · simp [h, beq_false_of_ne h]

end Memory
end BoardDriver
