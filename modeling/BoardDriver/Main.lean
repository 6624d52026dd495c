/-
The program on the host: it looks at the files that a board's address names, carries out the command line, writes back
what changed in the files, and prints.
-/
import BoardDriver.CommandLine.Run

namespace BoardDriver.CommandLine

/-- contents of a file, of which only the bytes that are not zero are kept -/
def memoryOfBytes (bytes : ByteArray) : Memory :=
  { length := bytes.size
    written := ((List.range bytes.size).map fun i => (i, bytes.get! i)).filter fun e => e.2 != 0 }

def bytesOfMemory (m : Memory) : ByteArray :=
  ⟨m.nonzero.foldl (fun bytes e => bytes.setIfInBounds e.1 e.2) (Array.replicate m.length 0)⟩

/-- what a path of the host names -/
def lookAt (path : String) : IO (Option HostEntry) := do
  try
    return some (.file (memoryOfBytes (← IO.FS.readBinFile path)))
  catch e =>
    match e with
    | .noFileOrDirectory .. => return none
    | .inappropriateType .. => return some (.closed .isDirectory)
    | e => return some (.closed (.stated (toString e)))

/-- the host's files that an invocation may need -/
def filesFor (i : Invocation) : IO (List (String × HostEntry)) := do
  match i.pcieAddress with
  | none => return []
  | some address =>
    let paths := (List.range barCount).map (BoardBackend.resourcePath address)
    paths.filterMapM fun path => do return (← lookAt path).map fun entry => (path, entry)

def printLines (stream : IO.FS.Stream) (lines : List String) : IO Unit :=
  lines.forM stream.putStrLn

/-- writes a file of the board back if it changed -/
def writeBack (before : List (String × HostEntry)) (after : String × Memory) : IO Unit := do
  match before.lookup after.1 with
  | some (.file contents) =>
    if contents ≠ after.2 then
      IO.FS.writeBinFile after.1 (bytesOfMemory after.2)
  | _ => return

def conclude (r : Report) : IO UInt32 := do
  printLines (← IO.getStdout) r.output
  printLines (← IO.getStderr) r.errors
  return r.code.toUInt32

end BoardDriver.CommandLine

open BoardDriver.CommandLine in
def main (arguments : List String) : IO UInt32 := do
  match Invocation.ofArguments arguments with
  | .error notice => conclude (Report.ofNotice notice)
  | .ok i =>
    let entries ← filesFor i
    let r := Report.ofInvocation (fun path => entries.lookup path) i
    r.files.forM (writeBack entries)
    conclude r
