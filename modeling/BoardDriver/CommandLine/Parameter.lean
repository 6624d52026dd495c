/-
What a command line may hold: parameters, the values given for them, and what can be wrong with them.
-/
import BoardDriver.CommandLine.Number
import BoardDriver.Text.ControlSequence
import BoardDriver.Transfer.Descriptor

namespace BoardDriver.CommandLine

/-- what the value of a parameter looks like -/
inductive ValueKind where
  | text
  /-- 32 bits, decimal or hexadecimal -/
  | word
  /-- 64 bits, decimal or hexadecimal -/
  | address
  /-- 32 bits, decimal -/
  | count
  /-- 64 bits, decimal -/
  | longCount
  | direction
  deriving DecidableEq, Repr

/-- a value that was given -/
inductive Value where
  | text (s : String)
  | number (n : Nat)
  | direction (d : Direction)
  /-- the parameter is there, and takes no value -/
  | present
  deriving DecidableEq, Repr

/-- where a parameter stands and whether it takes a value -/
inductive Shape where
  | positional
  | option
  | flag
  /-- asks for the description of the command -/
  | help
  /-- asks for the version of the program -/
  | version
  deriving DecidableEq, Repr

structure Parameter where
  name : String
  shape : Shape := .option
  letter : Option Char := none
  kind : ValueKind := .text
  /-- one line for the description of the command -/
  summary : String
  /-- value if none is given, as the description shows it -/
  initial : Option String := none
  deriving DecidableEq, Repr

namespace Parameter

def placeholder (p : Parameter) : String :=
  "<" ++ String.ofList (p.name.toList.map fun c => if c = '-' then '_' else c.toUpper) ++ ">"

/-- the parameter as messages name it -/
def text (p : Parameter) : String :=
  match p.shape with
  | .positional => p.placeholder
  | .option => "--" ++ p.name ++ " " ++ p.placeholder
  | .flag | .help | .version => "--" ++ p.name

end Parameter

/-- why a command line is refused -/
inductive UsageFault where
  | unexpected (argument : String)
  | unknownCommand (word : String)
  | noCommand
  | noValue (p : Parameter)
  | valueOfFlag (p : Parameter) (word : String)
  /-- without a reason, the word is none of the few that are allowed -/
  | badValue (p : Parameter) (word : String) (reason : Option String)
  | repeated (p : Parameter)
  | conflict (p q : Parameter)
  | missing (ps : List Parameter)
  deriving DecidableEq, Repr

def programName : String := "fpgabus"

/-- a word of the command line as messages show it: between quotes, without what a terminal would obey -/
def shownWord (word : String) : String := "'" ++ Text.visible word ++ "'"

def UsageFault.message : UsageFault → String
  | unexpected argument => "unexpected argument " ++ shownWord argument ++ " found"
  | unknownCommand word => "unrecognized subcommand " ++ shownWord word
  | noCommand => "'" ++ programName ++ "' requires a subcommand but one was not provided"
  | noValue p => "a value is required for '" ++ p.text ++ "' but none was supplied"
  | valueOfFlag p word =>
    "unexpected value " ++ shownWord word ++ " for '" ++ p.text ++ "' found; no more were expected"
  | badValue p word (some reason) => "invalid value " ++ shownWord word ++ " for '" ++ p.text ++ "': " ++ reason
  | badValue p word none => "invalid value " ++ shownWord word ++ " for '" ++ p.text ++ "'"
  | repeated p => "the argument '" ++ p.text ++ "' cannot be used multiple times"
  | conflict p q => "the argument '" ++ p.text ++ "' cannot be used with '" ++ q.text ++ "'"
  | missing ps =>
    "the following required arguments were not provided:" ++ String.join (ps.map fun p => "\n  " ++ p.text)

/-- a count of 32 bits -/
def parseCount (word : String) : Except String Nat :=
  match Numeral.parseSigned (UInt64.size / 2) word.toList with
  | .error fault => .error fault.message
  | .ok n =>
    if 0 ≤ n ∧ n < UInt32.size then .ok n.toNat
    else .error (toString n ++ " is not in 0..=" ++ toString (UInt32.size - 1))

/-- a count of 64 bits -/
def parseLongCount (word : String) : Except String Nat :=
  match Numeral.parseDigits 10 UInt64.size word.toList with
  | .error fault => .error fault.message
  | .ok n => .ok n

def Parameter.read (p : Parameter) (word : String) : Except UsageFault Value :=
  let number : Except String Nat → Except UsageFault Value
    | .ok n => .ok (.number n)
    | .error reason => .error (.badValue p word (some reason))
  match p.kind with
  | .text => .ok (.text word)
  | .word => number ((parseWord word).mapError NumberFault.message)
  | .address => number ((parseAddress word).mapError NumberFault.message)
  | .count => number (parseCount word)
  | .longCount => number (parseLongCount word)
  | .direction =>
    match word with
    | "down" => .ok (.direction .down)
    | "up" => .ok (.direction .up)
    | "" => .error (.noValue p)
    | _ => .error (.badValue p word none)

end BoardDriver.CommandLine
