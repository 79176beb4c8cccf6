import ScriptProfiling.CommandLine.Values
import ScriptProfiling.Log.Handlers
import ScriptProfiling.Script.Discovery
import ScriptProfiling.Session
import ScriptProfiling.Trace.Loading

/-!
# Replaying traces

A replay runs a session over the scripts in a folder, files the entries of a recorded
trace in it, and prints the report.
-/
namespace ScriptProfiling
namespace CommandLine

structure ReplayRequest where
  path : String
  trace : String
  detailed : Bool
  layout : Layout
  load : Option Binary64
  config : Option String
  logging : LogRequest

/-- The readings of the clock, in seconds, at the start and the end of the session. -/
structure SessionTimes where
  started : Binary64
  stopped : Binary64

namespace Replay

def options : List OptionSpec :=
  [⟨"trace", "--trace", some 't', true⟩, ⟨"detailed", "--detailed", some 'd', false⟩,
   ⟨"format", "--format", some 'f', true⟩, ⟨"load", "--load", none, true⟩,
   ⟨"verbose", "--verbose", some 'v', false⟩, ⟨"quiet", "--quiet", some 'q', false⟩,
   ⟨"log_file", "--log-file", none, true⟩, ⟨"config", "--config", some 'c', true⟩]

def request (w : Surroundings) (arguments : List String) : Run ReplayRequest := do
  let given ← Run.ofUsage (readArguments options none arguments)
  let path ← folderPath w "path" (← onlyArgument "path" given.others)
  let trace ← filePath w "trace" (← required "trace" (given.value? "trace"))
  let layout ← layoutOf [.rich, .plain, .json] "format"
    ((given.value? "format").getD Layout.rich.name)
  let load ← optionally (numberOf "load") (given.value? "load")
  let logFile ← optionally (outputPath w "log_file") (given.value? "log_file")
  let config ← optionally (filePath w "config") (given.value? "config")
  return {
    path := path
    trace := trace
    detailed := given.flag "detailed"
    layout := layout
    load := load
    config := config
    logging := ⟨given.flag "verbose", given.flag "quiet", (logFile.map .path).getD .null⟩ }

/-- The entries of a trace. A file that cannot be read is shown and ends the run. -/
def entries (w : Surroundings) (path : String) : Run (List TraceEntry) :=
  let reading := loadTrace w.files w.cwd path
  match reading.fault with
  | none => Run.logged (.ok reading.entries) reading.log
  | some f => do
    Run.logged (.ok ()) reading.log
    if f.isFileFault then do
      printMarkup (announcement ("cannot read trace: " ++ f.message))
      Run.ending .failed
    else Run.ending (.fault f)

/-- The scripts below the folder that the settings name. A log file among them is read
with the entries that have been made by then. -/
def feed (w : Surroundings) (journal : Journal) (log : List LogEntry) (s : Settings) : Feed :=
  let found (files : Tree) := discoverScripts files w.cwd s.scriptsDir.display s.scriptExtension
  let scripts := do
    let before ← found w.files
    found (journal.write (log ++ Session.opening :: before.log) w.files)
  match scripts with
  -- The paths that are found are texts, so no value has to be written out.
  | .ok scripts => ⟨scripts.value.map FoundScript.item, none, scripts.log, 0⟩
  | .error f => ⟨[], some f, [], 0⟩

/-- Gives the load that was measured during the recording to the monitor. -/
def setLoad (load : Option Binary64) (s : Session) : Run Session :=
  match load with
  | some x => do
    let (_, monitor) ← Run.ofOutcome (s.monitor.update (.float x))
    return { s with monitor := monitor }
  | none => Run.done s

/-- A session in which the entries have been filed, stopped again. -/
def session (feed : Feed) (times : SessionTimes) (settings : Settings)
    (load : Option Binary64) (entries : List TraceEntry) : Run Session := do
  let fresh ← Run.ofResult (Session.create settings none)
  let (_, running) ← Run.ofOutcome (fresh.start feed times.started)
  let running ← setLoad load running
  let filled := { running with aggregator := running.aggregator.replay entries }
  let (_, stopped) ← Run.ofOutcome (filled.stop times.stopped)
  return stopped

def printReport (r : ReplayRequest) (times : SessionTimes) (s : Session) : Run Unit := do
  match r.layout with
  | .json => do
    let (data, _) ← Run.ofOutcome (s.reportData times.stopped)
    echo (← Run.ofResult data.toBlock)
  | .plain => do
    let (markup, _) ← Run.ofOutcome (s.report times.stopped r.detailed)
    echo (← Run.ofResult (stripMarkup markup))
  | .rich => do
    let (markup, _) ← Run.ofOutcome (s.report times.stopped r.detailed)
    printMarkup markup

end Replay

def replay (w : Surroundings) (journal : Journal) (times : SessionTimes) (r : ReplayRequest) :
    Run Unit := do
  let settings ← configure w r.config [("scripts_dir", .value (.text r.path))]
  let reading := Replay.entries w r.trace
  let entries ← reading
  let feed := Replay.feed w journal reading.log settings
  let session ← Replay.session feed times settings r.load entries
  Replay.printReport r times session

end CommandLine
end ScriptProfiling
