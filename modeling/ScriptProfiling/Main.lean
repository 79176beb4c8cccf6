import ScriptProfiling.CommandLine.Program
import ScriptProfiling.Log.Stamp

/-!
# The command line

Takes a picture of the files that the arguments name, runs the program on it, and prints
and writes what comes of it.
-/
namespace ScriptProfiling
namespace CommandLine

/-- What stands at a path, with everything below it if it is a folder. -/
partial def nodesAt (names : List String) : IO (List (List String × Node)) := do
  let place := (← IO.currentDir) / (Path.mk .single names).text
  if ← place.isDir then
    let inner ← (← place.readDir).toList.mapM fun entry => nodesAt (names ++ [entry.fileName])
    return (names, .folder) :: inner.flatten
  else if ← place.pathExists then
    return [(names, .file (← IO.FS.readBinFile place).toList)]
  else return []

/-- The folder at a path alone. -/
def folderAt (names : List String) : IO (List (List String × Node)) := do
  let place := (← IO.currentDir) / (Path.mk .single names).text
  return if ← place.isDir then [(names, .folder)] else []

/-- The files at some paths, and the folders in which they stand. -/
def picture (cwd : Path) (paths : List Path) : IO Tree := do
  let nodes ← paths.mapM fun p => do
    let names := (Path.resolve cwd p).names
    return (← folderAt names.dropLast) ++ (← nodesAt names)
  return ⟨(cwd.names, .folder) :: nodes.flatten⟩

def variableNames : List String :=
  Settings.fieldNames.map (Environment.variableName Environment.settingPrefix) ++
    Thresholds.fieldNames.map (Environment.variableName Environment.thresholdPrefix)

def setVariables : IO Environment.Variables := do
  let found ← variableNames.mapM fun name => do
    return (← IO.getEnv name).map fun text => (name, text)
  return found.filterMap id

def surroundings (arguments : List String) : IO Surroundings := do
  let cwd := Path.parse (← IO.currentDir).toString
  let home := (← IO.getEnv "HOME").getD ""
  let w : Surroundings := ⟨.empty, cwd, home, ← setVariables⟩
  let named := (Request.paths arguments).map Path.parse
  return { w with files := ← picture cwd (w.userFile.toOption.toList ++ w.projectFile :: named) }

/-- The present time, taken from a file made for it. -/
def stampNow : IO String := do
  let (_, place) ← IO.FS.createTempFile
  let made := (← place.metadata).modified
  IO.FS.removeFile place
  return timeStamp made.sec.toNat

def seconds (nanos : Nat) : Binary64 := .nearest false nanos 1000000000

/-- The stamp is needed only for a run that is asked for a log file. -/
def stampFor (arguments : List String) : IO String :=
  if arguments.any (·.startsWith "--log-file") then stampNow else pure ""

def writeLog (c : Conclusion) : IO Unit :=
  match c.journal.file with
  | none => pure ()
  | some path => do
    let handle ← IO.FS.Handle.mk path.text .append
    handle.putStr c.logText

/-- Entries that are urgent enough for the console, and the reason of an early end. -/
def complaints (c : Conclusion) : List String :=
  (c.run.log.filter (c.consoleLevel.rank ≤ ·.level.rank)).map LogEntry.fileLine ++
    match c.run.result with
    | .error (.usage fault) => [fault.message]
    | .error (.fault f) => [f.message]
    | _ => []

end CommandLine
end ScriptProfiling

open ScriptProfiling CommandLine in
def main (arguments : List String) : IO UInt32 := do
  let started ← IO.monoNanosNow
  let w ← surroundings arguments
  let stamp ← stampFor arguments
  let c := call w stamp ⟨seconds started, seconds (← IO.monoNanosNow)⟩ arguments
  for line in c.output do IO.println line
  for line in complaints c do IO.eprintln line
  writeLog c
  return c.run.code.toUInt32
