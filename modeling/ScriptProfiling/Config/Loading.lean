import ScriptProfiling.Config.Environment
import ScriptProfiling.Files.Tree
import ScriptProfiling.Toml.Document

/-!
# Loading settings

Settings are collected from the user's configuration file, the project's, one that the
caller names, the environment and the caller, each source overruling those before it.
A table of thresholds replaces an earlier one as a whole, but the environment adds to
the table that it finds.
-/
namespace ScriptProfiling

/-- Where settings are looked for. -/
structure Surroundings where
  files : Tree
  cwd : Path
  /-- The home folder as it is written. -/
  home : String
  environment : Environment.Variables

namespace Surroundings

/-- The home folder; without a name it is the root. A tilde stands for the home folder
itself, so it cannot be a part of it. -/
def homeFolder (w : Surroundings) : Except Fault Path :=
  match w.home.toList with
  | '~' :: _ => .error .noHome
  | cs => .ok (if cs.all (· == '/') then ⟨.single, []⟩ else Path.parse w.home)

def userFile (w : Surroundings) : Except Fault Path := do
  let home ← w.homeFolder
  return ⟨home.root, home.names ++ [".skript-profiler.toml"]⟩

def projectFile (w : Surroundings) : Path :=
  ⟨w.cwd.root, w.cwd.names ++ ["skript-profiler.toml"]⟩

def readTable (w : Surroundings) (path : String) : Except Fault Toml.Table := do
  let content ← w.files.read w.cwd path
  match decodeUtf8 content with
  | .ok document => Toml.parse document
  | .error e => throw (.undecodable e)

end Surroundings

namespace Settings

/-- The settings found so far. -/
abbrev Collection := Catalog String Setting

def Collection.update (found : Collection) (more : List (String × Setting)) : Collection :=
  more.foldl (fun found s => found.put s.1 s.2) found

def addFile (w : Surroundings) (label path : String) (found : Collection) :
    Except Fault Collection :=
  match w.readTable path with
  | .ok fields => .ok (found.update (fields.map fun f => (f.1, .value f.2)))
  | .error f =>
    .error (.configuration ("Invalid " ++ label ++ " " ++ inQuotes path ++ ": " ++ f.message))

/-- A file that is only read if it is there. -/
def addPresentFile (w : Surroundings) (label path : String) (found : Collection) :
    Except Fault Collection := do
  if ← w.files.present w.cwd path then addFile w label path found else return found

def addNamedFile (w : Surroundings) (path : String) (found : Collection) :
    Except Fault Collection := do
  if ← w.files.present w.cwd path then addFile w "config file" path found
  else throw (.configuration ("Config file not found: " ++ path))

def addFiles (w : Surroundings) (named : Option String) : Except Fault Collection := do
  let found ← addPresentFile w "global config" (← w.userFile).text .empty
  let found ← addPresentFile w "project config" w.projectFile.text found
  match named with
  | some path => addNamedFile w path found
  | none => return found

/-- Adds thresholds to the table of thresholds, which has to be one if there are any. -/
def addThresholds (extra : Toml.Table) (found : Collection) : Except Fault Collection :=
  let put (fields : Toml.Table) : Collection :=
    found.put "thresholds"
      (.value (.table (extra.foldl (fun fields f => Catalog.fileIn f.1 f.2 fields) fields)))
  if extra.isEmpty then .ok found
  else
    match found.get? "thresholds" with
    | none => .ok (put [])
    | some (.value (.table fields)) => .ok (put fields)
    | some s => .error (.notAMapping s.typeName)

def addVariables (w : Surroundings) (found : Collection) : Except Fault Collection := do
  let settings ← Environment.readFields w.environment Environment.settingPrefix fieldKinds
  let thresholds ←
    Environment.readFields w.environment Environment.thresholdPrefix Thresholds.fieldKinds
  let found ← addThresholds thresholds found
  return found.update (settings.map fun s => (s.1, .value s.2))

/-- A fault in settings of some source is reported as one of the configuration. -/
def inConfiguration {α : Type} (start : String) (result : Except Fault α) : Except Fault α :=
  match result with
  | .ok x => .ok x
  | .error f => if f.isRefusal then .error (.configuration (start ++ f.message)) else .error f

/-- Makes thresholds of their table. What is neither a table nor thresholds is dropped. -/
def completeThresholds (found : Collection) : Except Fault Arguments :=
  let others := found.entries.filter (·.1 != "thresholds")
  match found.get? "thresholds" with
  | some (.value (.table fields)) => do
    let t ← inConfiguration "Invalid [thresholds] config: " (Thresholds.ofArguments fields)
    return others ++ [("thresholds", .thresholds t)]
  | some (.thresholds t) => .ok (others ++ [("thresholds", .thresholds t)])
  | _ => .ok others

/-- The settings from all sources. -/
def load (w : Surroundings) (named : Option String) (overrides : Arguments) :
    Except Fault Settings := do
  let found ← addVariables w (← addFiles w named)
  let arguments ← completeThresholds (found.update overrides)
  inConfiguration "Invalid configuration: " (ofArguments arguments)

end Settings
end ScriptProfiling
