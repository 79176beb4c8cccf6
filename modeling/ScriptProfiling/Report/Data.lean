import ScriptProfiling.Json.Writing
import ScriptProfiling.Report

/-!
# The structured report

The same records, issues and scripts as data. Times are in milliseconds, rounded to
three decimal places.
-/
namespace ScriptProfiling
namespace Report

def numberJson : Number → Json
  | .int n => .int n
  | .float x => .float x
  | .flag b => .bool b

mutual

/-- A value as data, unless it is of a kind that data does not have. -/
def valueJson : Value → Except Fault Json
  | .null => .ok .null
  | .bool b => .ok (.bool b)
  | .int n => .ok (.int n)
  | .float x => .ok (.float x)
  | .text s => .ok (.text s)
  | .list xs | .tuple xs => (valuesJson xs).map .list
  | .table fields => (fieldsJson fields).map .object
  | value => .error (.notData value.typeName)

def valuesJson : List Value → Except Fault (List Json)
  | [] => .ok []
  | x :: xs => do return (← valueJson x) :: (← valuesJson xs)

def fieldsJson : List (String × Value) → Except Fault (List (String × Json))
  | [] => .ok []
  | (name, x) :: fields => do return (name, ← valueJson x) :: (← fieldsJson fields)

end

def rounded (x : Except Fault Binary64) : Except Fault Json :=
  x.map fun x => .float (x.roundPlaces 3)

def recordJson (r : Record Int) : Except Fault Json := do
  let total ← rounded r.totalMs
  let average ← rounded r.averageMs
  let longest ← rounded r.longestMs
  let shortest ← rounded r.shortestMs
  return .object [
    ("file", .text r.key.file), ("line", .int r.key.line), ("kind", .text r.key.kind),
    ("name", .text r.name), ("count", .int r.count), ("total_ms", total),
    ("average_ms", average), ("max_ms", longest), ("min_ms", shortest)]

def issueJson (i : Issue) : Json :=
  .object [
    ("kind", .text i.kind.name), ("severity", .text i.severity.name), ("file", .text i.file),
    ("line", .int i.line), ("description", .text i.description),
    ("suggestion", .text i.suggestion)]

def scriptJson (s : ScriptInfo) : Json :=
  .object [
    ("file", .text s.path), ("lines", .int s.lineCount), ("events", .int s.events),
    ("functions", .int s.functions), ("commands", .int s.commands), ("loops", .int s.loops),
    ("variable_accesses", .int s.variableAccesses)]

def data (input : ReportInput) : Except Fault Json := do
  let records ← input.metrics.values.mapM recordJson
  let load ← valueJson input.load
  return .object [
    ("duration_ms", numberJson input.durationMs.thousandths),
    ("current_load", load),
    ("records", .list records),
    ("issues", .list (input.issues.map issueJson)),
    ("scripts", .list (input.scripts.values.map scriptJson))]

/-- The structured report as text. -/
def dataText (input : ReportInput) : Except Fault String := do (← data input).toBlock

end Report
end ScriptProfiling
