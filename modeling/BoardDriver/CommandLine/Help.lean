/-
The description of the program and of its commands.

Parameters by name are listed by their rank, then alphabetically. The rank of a parameter is its place among the
command's own parameters or among the general options, so the two lists interleave; the flags that ask for descriptions
and versions come last. A command whose parameter has explained values is also described in full, with every
explanation below its parameter.
-/
import BoardDriver.CommandLine.Invocation
import BoardDriver.Board.RegisterMap

namespace BoardDriver.CommandLine.Help

/-- values that a parameter of the kind is limited to, each with an explanation -/
def explained : ValueKind → List (String × String)
  | .direction => [("down", "System to device"), ("up", "Device to system")]
  | _ => []

/-- letter first, small before capital, then the name -/
def sortKey (p : Parameter) : String :=
  match p.letter with
  | some c => String.ofList [c.toLower, if c.isLower then '0' else '1']
  | none => p.name

def ranked (ps : List Parameter) : List (Nat × Parameter) :=
  (List.range ps.length).zip ps

/-- the parameters by name of a level, in the order in which they are listed -/
def listed (own general last : List Parameter) : List Parameter :=
  let named := (own.filter fun p => p.shape != .positional)
  let all := ranked named ++ ranked general ++ last.map fun p => (named.length + general.length, p)
  let before (a b : Nat × Parameter) : Bool := a.1 < b.1 || (a.1 == b.1 && sortKey a.2 ≤ sortKey b.2)
  (all.mergeSort before).map Prod.snd

/-- text filled with blanks to a width -/
def padRight (width : Nat) (s : String) : String :=
  s ++ String.ofList (List.replicate (width - s.length) ' ')

/-- a list of entries with what they mean, in two columns -/
def columns (margin : String) (entries : List (String × String)) : List String :=
  let width := (entries.map fun e => e.1.length).foldl max 0
  entries.map fun e => margin ++ padRight (width + 2) e.1 ++ e.2

def entry (p : Parameter) : String :=
  match p.shape, p.letter with
  | .positional, _ => p.text
  | _, some c => String.ofList ['-', c, ',', ' '] ++ p.text
  | _, none => "    " ++ p.text

def initialText (p : Parameter) : Option String :=
  p.initial.map fun v => "[default: " ++ v ++ "]"

def meaning (summary : String) (p : Parameter) : String :=
  let values :=
    match explained p.kind with
    | [] => none
    | vs => some ("[possible values: " ++ ", ".intercalate (vs.map Prod.fst) ++ "]")
  " ".intercalate (summary :: (initialText p).toList ++ values.toList)

def paragraph (summary : String) (p : Parameter) : List String :=
  let indent := "          "
  let values :=
    match explained p.kind with
    | [] => []
    | vs =>
      let width := (vs.map fun e => e.1.length).foldl max 0
      ["", indent ++ "Possible values:"] ++
        vs.map fun e => indent ++ "- " ++ padRight (width + 2) (e.1 ++ ":") ++ e.2
  let initial :=
    match initialText p with
    | none => []
    | some text => [indent, indent ++ text]
  ["  " ++ entry p, indent ++ summary] ++ values ++ initial

def spaced : List (List String) → List String
  | [] => []
  | [p] => p
  | p :: rest => p ++ "" :: spaced rest

/-- the part that lists parameters by name -/
def options (ps : List Parameter) (inFull : Bool) : List String :=
  let hasMore := ps.any fun p => !(explained p.kind).isEmpty
  let summary (p : Parameter) : String :=
    if p.shape = .help ∧ hasMore then
      p.summary ++ (if inFull then " (see a summary with '-h')" else " (see more with '--help')")
    else p.summary
  "Options:" ::
    if hasMore && inFull then spaced (ps.map fun p => paragraph (summary p) p)
    else columns "  " (ps.map fun p => (entry p, meaning (summary p) p))

def ofCommand (c : CommandName) (inFull : Bool) : List String :=
  let places := c.parameters.filter fun p => p.shape == .positional
  let usage := " ".intercalate ([programName, c.name, "[OPTIONS]"] ++ places.map Parameter.text)
  let arguments :=
    if places.isEmpty then [] else "Arguments:" :: columns "  " (places.map fun p => (entry p, p.summary)) ++ [""]
  [c.summary, "", "Usage: " ++ usage, ""] ++ arguments ++
    options (listed c.parameters generalOptions [helpFlag]) inFull

/-- one line on the word that asks for descriptions -/
def helpSummary : String := "Print this message or the help of the given subcommand(s)"

def ofProgram : List String :=
  ["FPGA board driver CLI", "", "Usage: " ++ programName ++ " [OPTIONS] <COMMAND>", "", "Commands:"] ++
  columns "  " (CommandName.all.map (fun c => (c.name, c.summary)) ++ [(helpWord, helpSummary)]) ++
  [""] ++ options (listed [] generalOptions [helpFlag, versionFlag]) false

def ofHelp : List String :=
  [helpSummary, "", "Usage: " ++ programName ++ " " ++ helpWord ++ " [COMMAND]...", "", "Arguments:"] ++
  columns "  " [("[COMMAND]...", "Print help for the subcommand(s)")]

def versionLine : String :=
  let (major, minor, revision) := version
  programName ++ " " ++ toString major ++ "." ++ toString minor ++ "." ++ toString revision

end BoardDriver.CommandLine.Help
