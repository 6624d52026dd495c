/-
Reading the words of one level of a command line: those before the name of a command, or those after it.

Words are read from the left. `--name`, `--name=value`, `-x`, `-xvalue` and `-x=value` are parameters by name; the word
after an option that has no value yet is its value; every other word is the next positional parameter. After `--` all
words are positional.

The value of a parameter is looked at when the next parameter begins, or at the end of the level. So a word that fits
nowhere is reported before a bad value that stands just before it.
-/
import BoardDriver.CommandLine.Parameter

namespace BoardDriver.CommandLine

/-- why reading ends early -/
inductive Halt where
  /-- the description of the command is asked for; in full, or in short -/
  | help (inFull : Bool)
  | version
  | fault (f : UsageFault)
  deriving DecidableEq, Repr

/-- what a level may hold -/
structure Level where
  parameters : List Parameter
  /-- names of the commands, any of which ends the level -/
  commands : List String := []
  deriving DecidableEq, Repr

/-- parameters that were given, oldest first -/
abbrev Given : Type := List (Parameter × Value)

/-- how far a level has been read -/
structure Progress where
  /-- parameters whose values have been looked at -/
  given : Given := []
  /-- the parameter being read, and its value if it has come -/
  current : Option (Parameter × Option String) := none
  /-- positional parameters still to come -/
  places : List Parameter
  deriving DecidableEq, Repr

namespace Progress

/-- takes a parameter in; it may come once -/
def accept (s : Progress) (p : Parameter) (value : Except UsageFault Value) : Except UsageFault Progress := do
  if s.given.any fun g => g.1.name == p.name then throw (.repeated p)
  return { s with given := s.given ++ [(p, ← value)] }

/-- looks at the value of the parameter being read -/
def settle (s : Progress) : Except UsageFault Progress :=
  match s.current with
  | none => .ok s
  | some (p, none) => .error (.noValue p)
  | some (p, some word) => { s with current := none }.accept p (p.read word)

/-- whether the next word is the value of an option -/
def awaitsValue (s : Progress) : Bool :=
  match s.current with
  | some (_, none) => true
  | _ => false

end Progress

/-- a word as the level's first look takes it -/
inductive Word where
  | long (name : String) (value : Option String)
  | letters (cs : List Char)
  | plain
  deriving DecidableEq, Repr

/-- text before and after the first equals sign -/
def splitValue (cs : List Char) : String × Option String :=
  match cs.dropWhile (· != '=') with
  | [] => (String.ofList cs, none)
  | _ :: value => (String.ofList (cs.takeWhile (· != '=')), some (String.ofList value))

def Word.ofString (word : String) : Word :=
  match word.toList with
  | '-' :: '-' :: cs =>
    let (name, value) := splitValue cs
    .long name value
  | '-' :: c :: cs => .letters (c :: cs)
  | _ => .plain

namespace Level

def named? (l : Level) (name : String) : Option Parameter :=
  l.parameters.find? fun p => p.shape != .positional && p.name == name

def lettered? (l : Level) (c : Char) : Option Parameter :=
  l.parameters.find? fun p => p.letter == some c

def start (l : Level) : Progress :=
  { places := l.parameters.filter fun p => p.shape == .positional }

/-- a parameter that takes no value -/
def takeFlag (p : Parameter) (inFull : Bool) (s : Progress) : Except Halt Progress :=
  match s.settle with
  | .error f => .error (.fault f)
  | .ok s =>
    match p.shape with
    | .help => .error (.help inFull)
    | .version => .error .version
    | _ => (s.accept p (.ok .present)).mapError .fault

/-- a parameter that takes a value, with the value if it is in the same word -/
def takeOption (p : Parameter) (value : Option String) (s : Progress) : Except UsageFault Progress := do
  let s ← s.settle
  match value with
  | some word => s.accept p (p.read word)
  | none => return { s with current := some (p, none) }

def takeNamed (l : Level) (name : String) (value : Option String) (s : Progress) : Except Halt Progress :=
  match l.named? name with
  | none => .error (.fault (.unexpected ("--" ++ name)))
  | some p =>
    if p.shape = .option then (takeOption p value s).mapError .fault
    else
      match value with
      | some word => .error (.fault (.valueOfFlag p word))
      | none => takeFlag p true s

def takeLetters (l : Level) : List Char → Progress → Except Halt Progress
  | [], s => .ok s
  | c :: rest, s =>
    match l.lettered? c with
    | none => .error (.fault (.unexpected (String.ofList ['-', c])))
    | some p =>
      if p.shape = .option then
        let value :=
          match rest with
          | [] => none
          | '=' :: value => some (String.ofList value)
          | value => some (String.ofList value)
        (takeOption p value s).mapError .fault
      else do l.takeLetters rest (← takeFlag p false s)

def takePlace (l : Level) (trailing : Bool) (word : String) (s : Progress) : Except UsageFault Progress :=
  match s.places with
  | p :: places => do return { ← s.settle with current := some (p, some word), places := places }
  | [] =>
    if l.commands.isEmpty || (trailing && l.commands.contains word) then .error (.unexpected word)
    else .error (.unknownCommand word)

/-- a word that is no command -/
def take (l : Level) (word : String) (s : Progress) : Except Halt Progress :=
  match Word.ofString word with
  | .long name value => l.takeNamed name value s
  | .letters cs => l.takeLetters cs s
  | .plain =>
    match s.current with
    | some (p, none) => .ok { s with current := some (p, some word) }
    | _ => (l.takePlace false word s).mapError .fault

/-- reads words up to the name of a command; answers with the name and the words after it -/
def read (l : Level) : List String → Progress → Except Halt (Progress × Option (String × List String))
  | [], s => .ok (s, none)
  | word :: rest, s =>
    if !s.awaitsValue && l.commands.contains word then .ok (s, some (word, rest))
    else if word = "--" then do
      let s ← (rest.foldlM (fun s word => l.takePlace true word s) s).mapError .fault
      return (s, none)
    else do l.read rest (← l.take word s)

end Level
end BoardDriver.CommandLine
