/-
Numbers on the command line: hexadecimal after `0x` or `0X`, decimal otherwise, and never wrapped.
-/
import BoardDriver.Text.Numeral
import BoardDriver.Text.Quoted

namespace BoardDriver.CommandLine

/-- why a word is no number -/
inductive NumberFault where
  | malformed (word : String) (fault : Numeral.Fault)
  /-- more than 32 bits -/
  | tooWide
  deriving DecidableEq, Repr

def NumberFault.message : NumberFault → String
  | malformed word fault => Text.quoted word ++ ": " ++ fault.message
  | tooWide => Numeral.Fault.tooLarge.message

/-- the base that a word's prefix asks for, and the characters after it -/
def splitBase (word : String) : Nat × List Char :=
  match word.toList with
  | '0' :: 'x' :: digits => (16, digits)
  | '0' :: 'X' :: digits => (16, digits)
  | digits => (10, digits)

/-- a number of 64 bits -/
def parseAddress (word : String) : Except NumberFault Nat :=
  let (base, digits) := splitBase word
  match Numeral.parseDigits base UInt64.size digits with
  | .ok n => .ok n
  | .error fault => .error (.malformed word fault)

/-- a number of 32 bits -/
def parseWord (word : String) : Except NumberFault Nat := do
  let n ← parseAddress word
  if n < UInt32.size then return n else throw .tooWide

end BoardDriver.CommandLine
