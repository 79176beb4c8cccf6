import ScriptProfiling.CommandLine.Values
import ScriptProfiling.Json.Writing
import ScriptProfiling.Log.Handlers
import ScriptProfiling.Markup.Escape
import ScriptProfiling.Script.Analyzer
import ScriptProfiling.Script.Discovery
import ScriptProfiling.Text.Table

/-!
# Scanning scripts

A scan prints the facts of every script in a folder, as a table or as data, and on
request the labels of its lines.
-/
namespace ScriptProfiling
namespace CommandLine

structure ScanRequest where
  path : String
  extension : Option String
  layout : Layout
  labels : Bool
  config : Option String
  logging : LogRequest

namespace Scan

def options : List OptionSpec :=
  [⟨"extension", "--extension", some 'e', true⟩, ⟨"format", "--format", some 'f', true⟩,
   ⟨"labels", "--labels", some 'l', false⟩, ⟨"verbose", "--verbose", some 'v', false⟩,
   ⟨"config", "--config", some 'c', true⟩]

def request (w : Surroundings) (arguments : List String) : Run ScanRequest := do
  let given ← Run.ofUsage (readArguments options none arguments)
  let path ← folderPath w "path" (← onlyArgument "path" given.others)
  let layout ← layoutOf [.rich, .json] "format" ((given.value? "format").getD Layout.rich.name)
  let config ← optionally (filePath w "config") (given.value? "config")
  return {
    path := path
    extension := given.value? "extension"
    layout := layout
    labels := given.flag "labels"
    config := config
    logging := ⟨given.flag "verbose", false, .null⟩ }

def infoJson (s : ScriptInfo) : Json :=
  .object [
    ("file", .text s.path), ("lines", .int s.lineCount), ("events", .int s.events),
    ("functions", .int s.functions), ("commands", .int s.commands), ("loops", .int s.loops),
    ("waits", .int s.waits.size), ("variable_accesses", .int s.variableAccesses),
    ("labels", .object (s.labels.entries.map fun l =>
      (wholeText l.1, .list (l.2.map fun label => .text label.text))))]

def columns : List Column :=
  ⟨"File", .left⟩ ::
    ["Lines", "Events", "Functions", "Commands", "Loops", "Waits", "Variables"].map (⟨·, .right⟩)

def row (s : ScriptInfo) : Except Fault (List String) := do
  let counts : List Int := [s.lineCount, s.events, s.functions, s.commands, s.loops,
    s.waits.size, s.variableAccesses]
  return (← stripMarkup (escapeMarkup s.name)) :: counts.map wholeText

def table (path : String) (scripts : List ScriptInfo) : Except Fault Table := do
  let title ← stripMarkup ("Scripts in " ++ escapeMarkup path)
  return ⟨title, columns, ← scripts.mapM row⟩

/-- A line number at the right of five columns, and the labels of the line. -/
def labelLine (s : ScriptInfo) (number : Int) : String :=
  let numeral := wholeText number
  "  " ++ String.ofList (List.replicate (5 - numeral.length) ' ') ++ numeral ++ "  " ++
    escapeMarkup ((s.labelAt number).getD "")

/-- The labels of all lines that have some, under the name of the script. -/
def printLabels (s : ScriptInfo) : Run Unit := do
  printMarkup ("\n[bold]" ++ escapeMarkup s.name ++ "[/bold]")
  s.labels.keys.forM fun number => printMarkup (labelLine s number)

def printTable (r : ScanRequest) (extension : String) (batch : Batch) : Run Unit := do
  let scripts := batch.scripts.values
  if scripts.isEmpty then
    printMarkup ("[yellow]No " ++ escapeMarkup extension ++ " scripts found.[/yellow]")
  else do
    Run.print (← Run.ofResult (table r.path scripts)).lines
    if r.labels then scripts.forM printLabels
    batch.warnings.forM fun warning =>
      printMarkup ("[yellow]" ++ escapeMarkup warning ++ "[/yellow]")

/-- The scripts below a folder, with their facts. -/
def batchOf (w : Surroundings) (path extension : String) : Run Batch := do
  let found ← Run.ofResult (discoverScripts w.files w.cwd path extension)
  Run.logged (.ok ()) found.log
  -- The paths that are found are texts, so no value has to be written out.
  let (scripts, analyzer) ← Run.ofOutcome
    (Analyzer.fresh.analyze 0 (found.value.map FoundScript.item))
  return ⟨scripts, analyzer.warnings⟩

end Scan

def scan (w : Surroundings) (r : ScanRequest) : Run Unit := do
  let overrides := r.extension.toList.map fun e => ("script_extension", Setting.value (.text e))
  let settings ← configure w r.config overrides
  let batch ← Scan.batchOf w r.path settings.scriptExtension
  if r.layout = .json then
    echo (← Run.ofResult (Json.list (batch.scripts.values.map Scan.infoJson)).toBlock)
  else Scan.printTable r settings.scriptExtension batch

end CommandLine
end ScriptProfiling
