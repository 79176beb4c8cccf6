import ScriptProfiling.Files.Tree
import ScriptProfiling.Log

/-!
# Log handlers

A setup attaches its handlers to the package's logger in the place of those that the
setup before it made. A log file that cannot be opened stops it half way: what it has
made by then is not attached, and the next setup clears it away.
-/
namespace ScriptProfiling

inductive HandlerTarget where
  | console
  | file (path : Path)
  deriving DecidableEq, Repr

/-- No two handlers have the same serial number. -/
structure Handler where
  serial : Nat
  target : HandlerTarget
  level : Level
  deriving DecidableEq, Repr

structure LogRequest where
  verbose : Bool
  quiet : Bool
  /-- The log file; a value that counts as false asks for none. -/
  file : Value

namespace LogRequest

/-- Quiet wins over verbose. -/
def consoleLevel (r : LogRequest) : Level :=
  if r.quiet then .error else if r.verbose then .debug else .warning

def loggerLevel (r : LogRequest) : Level := if r.file.truthy then .debug else r.consoleLevel

def argumentNames : List String := ["verbose", "quiet", "log_file"]

/-- A request from named arguments. What is not given is not asked for. -/
def ofArguments (args : List (String × Value)) : Except Fault LogRequest :=
  let argument (name : String) : Value := (args.lookup name).getD .null
  match args.find? fun a => !argumentNames.contains a.1 with
  | some (name, _) => .error (.unexpectedKeyword "setup_logging" name)
  | none =>
    .ok ⟨(argument "verbose").truthy, (argument "quiet").truthy, argument "log_file"⟩

def filePath (cwd : Path) (r : LogRequest) : Except Fault Path :=
  match r.file with
  | .text s | .path s => .ok (Path.absolute cwd (Path.parse s))
  | .bytes bs => .ok (Path.absolute cwd (Path.parse (String.ofList (decodeLenient bs))))
  | v => .error (.notAPath v.typeName)

/-- A path that is given in bytes is told in bytes. -/
def tell (r : LogRequest) (f : Fault) : Fault :=
  match r.file, f with
  | .bytes _, .file cause path => .fileByBytes cause (encodeUtf8 path)
  | _, f => f

end LogRequest

structure Logging where
  /-- Handlers that the last setup has made. -/
  installed : List Handler
  /-- Handlers of the logger. -/
  attached : List Handler
  level : Option Level
  /-- How many handlers have been made. -/
  made : Nat
  deriving DecidableEq, Repr

namespace Logging

def fresh : Logging := ⟨[], [], none, 0⟩

/-- Detaches what the last setup has made, as far as it is attached. -/
def clear (g : Logging) : Logging :=
  { g with
    installed := []
    attached := g.attached.filter fun h => !g.installed.any (·.serial == h.serial) }

def install (target : HandlerTarget) (level : Level) (g : Logging) : Logging :=
  { g with installed := g.installed ++ [⟨g.made, target, level⟩], made := g.made + 1 }

def attach (level : Level) (g : Logging) : Logging :=
  { g with attached := g.attached ++ g.installed, level := some level }

/-- Opens the log file, if one is wanted, and gives its path. -/
def openFile (cwd : Path) (r : LogRequest) (files : Tree) : Except Fault (Option Path × Tree) :=
  if r.file.truthy then do
    let path ← r.filePath cwd
    return (some path, ← (files.append path []).mapError r.tell)
  else .ok (none, files)

/-- One setup. The log file is there from then on. -/
def setUp (cwd : Path) (r : LogRequest) (files : Tree) (g : Logging) :
    Except Fault Tree × Logging :=
  let g := g.clear.install .console r.consoleLevel
  match openFile cwd r files with
  | .error f => (.error f, g)
  | .ok (none, files) => (.ok files, g.attach r.loggerLevel)
  | .ok (some path, files) => (.ok files, (g.install (.file path) .debug).attach r.loggerLevel)

/-- The log file that the logger writes. -/
def filePath? (g : Logging) : Option Path :=
  g.attached.findSome? fun h =>
    match h.target with
    | .file path => some path
    | .console => none

end Logging

/-- The log file of a run, and the time stamp of its entries. -/
structure Journal where
  file : Option Path
  stamp : String

/-- The files once some entries have been made. -/
def Journal.write (j : Journal) (log : List LogEntry) (files : Tree) : Tree :=
  match j.file with
  | none => files
  | some path =>
    ((files.append path (encodeUtf8 (LogEntry.fileText j.stamp log))).toOption).getD files

end ScriptProfiling
