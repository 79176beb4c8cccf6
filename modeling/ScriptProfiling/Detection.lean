import ScriptProfiling.Config.Thresholds
import ScriptProfiling.Issue
import ScriptProfiling.Load
import ScriptProfiling.Log
import ScriptProfiling.Metric.Record
import ScriptProfiling.Script.Info
import ScriptProfiling.Text.Lowercase

/-!
# Detection

Six rules find issues in the records, in the scripts and in the host's load. Records
come first, then scripts line by line, then the load; the result is ordered by
severity, and issues of equal severity keep this order.
-/
namespace ScriptProfiling

/-- Ticks in a unit of time; twenty make a second. -/
def ticksPerUnit? (unit : List Char) : Option Int :=
  match String.ofList unit with
  | "tick" => some 1
  | "second" => some 20
  | "minute" => some 1200
  | _ => none

/-- A wait in ticks, for units in any case and number. -/
def waitTicks? (amount : Int) (unit : String) : Option Int :=
  let small := lowercase unit.toList
  let single := if small.getLast? = some 's' then small.dropLast else small
  (ticksPerUnit? single).map (amount * ·)

def Wait.ticks? (w : Wait) : Option Int := waitTicks? w.amount w.unit

namespace Detection

def aboveLimit (n : Int) (limit : Number) : Bool := (Number.int n).gt limit

def msText (x : Binary64) : String := x.fixedText 2

def ofRecord (r : Record Int) (kind : IssueKind) (severity : Severity)
    (description suggestion : String) : Issue :=
  ⟨kind, severity, r.key.file, r.key.line, description, suggestion, some r.key⟩

/-- A slow element: critical by its longest execution, else high by its average. -/
def slowEvent (t : Thresholds) (r : Record Int) (average longest : Binary64) : List Issue :=
  if (Number.float longest).ge t.verySlowMs then
    [ofRecord r .slowEvent .critical
      ("Very slow execution detected: " ++ msText average ++ "ms average, " ++ msText longest ++
        "ms max")
      ("Consider optimizing this code block. Break down complex operations, " ++
        "reduce database queries, or use async operations.")]
  else if (Number.float average).ge t.slowMs then
    [ofRecord r .slowEvent .high
      ("Slow execution detected: " ++ msText average ++ "ms average")
      ("Review this code for potential optimizations. " ++
        "Consider caching results or reducing complexity.")]
  else []

/-- An element that runs often, more severe if it takes much time altogether. -/
def highFrequency (t : Thresholds) (r : Record Int) : Except Fault (List Issue) :=
  if aboveLimit r.count t.frequencyCount then do
    let total ← r.totalMs
    let severity := if (Number.float total).gt t.frequencyTotalMs then .high else .medium
    return [ofRecord r .highFrequency severity
      ("High execution frequency: " ++ (← wholeTextLimited r.count) ++ " times (" ++
        msText total ++ "ms total)")
      ("This code executes very frequently. " ++
        "Even small optimizations can have significant impact.")]
  else .ok []

def checkRecord (t : Thresholds) (r : Record Int) : Except Fault (List Issue) := do
  let average ← r.averageMs
  let longest ← r.longestMs
  return slowEvent t r average longest ++ (← highFrequency t r)

/-- The first record of a line, of whatever kind. -/
def firstOnLine? (metrics : Metrics) (file : String) (line : Int) : Option (Record Int) :=
  metrics.values.find? fun r => r.key.file == file && r.key.line == line

/-- Numbers in ascending order, each once. -/
def insertLine (n : Int) : List Int → List Int
  | [] => [n]
  | m :: ms => if n < m then n :: m :: ms else if n = m then m :: ms else m :: insertLine n ms

def sortedLines (ns : List Int) : List Int := ns.foldr insertLine []

def inefficientLoop (t : Thresholds) (metrics : Metrics) (s : ScriptInfo) (line : Int) :
    Except Fault (List Issue) :=
  match if s.loopLines.contains line then firstOnLine? metrics s.path line else none with
  | none => .ok []
  | some r =>
    if aboveLimit r.count t.loopCount then do
      return [⟨.inefficientLoop, .medium, s.path, line,
        "Loop with high iteration count detected (" ++ (← wholeTextLimited r.count) ++
          " executions)",
        "Consider using list operations, filtering, or limiting the loop size. " ++
          "Review if all iterations are necessary.", some r.key⟩]
    else .ok []

def longWait (t : Thresholds) (s : ScriptInfo) (line : Int) : Except Fault (List Issue) :=
  match s.waits.get? line with
  | none => .ok []
  | some wait =>
    match wait.ticks? with
    | none => .ok []
    | some ticks =>
      if aboveLimit ticks t.waitTicks then do
        let amount ← wholeTextLimited wait.amount
        return [⟨.longWait, .low, s.path, line,
          "Long wait statement: " ++ amount ++ " " ++ wait.unit ++ " (" ++
            (← wholeTextLimited ticks) ++ " ticks)",
          "Consider if this wait is necessary. Long waits can tie up script execution.", none⟩]
      else .ok []

def checkLine (t : Thresholds) (metrics : Metrics) (s : ScriptInfo) (line : Int) :
    Except Fault (List Issue) := do
  let loop ← inefficientLoop t metrics s line
  return loop ++ (← longWait t s line)

def excessiveVariables (t : Thresholds) (s : ScriptInfo) : Except Fault (List Issue) :=
  if aboveLimit s.variableAccesses t.variableCount then do
    return [⟨.excessiveVariables, .medium, s.path, 1,
      "Excessive variable access: " ++ (← wholeTextLimited s.variableAccesses) ++ " occurrences",
      "High variable usage can impact performance. Consider reducing " ++
        "variable operations or using local variables.", none⟩]
  else .ok []

/-- The lines of a script that a rule looks at. -/
def watchedLines (s : ScriptInfo) : List Int := sortedLines (s.loopLines ++ s.waits.keys)

def checkScript (t : Thresholds) (metrics : Metrics) (s : ScriptInfo) :
    Except Fault (List Issue) := do
  let lines ← (watchedLines s).mapM (checkLine t metrics s)
  return lines.flatten ++ (← excessiveVariables t s)

/-- The record with the largest total, the first of several. -/
def costliest? : List (Record Int) → Option (Record Int)
  | [] => none
  | r :: rs => some (rs.foldl (fun best r => if best.total < r.total then r else best) r)

/-- The host is strained; the costliest record is blamed. -/
def checkLoad (t : Thresholds) (metrics : Metrics) (load : Number) : Except Fault (List Issue) :=
  if load.ge t.lowLoad then .ok []
  else
    match costliest? metrics.values with
    | none => .ok []
    | some r => do
      let now ← load.hundredths
      let limit ← t.lowLoad.hundredths
      let total ← r.totalMs
      return [ofRecord r .loadImpact .high
        ("Server load degraded to " ++ now ++ " (threshold " ++ limit ++
          "); largest contributor spent " ++ msText total ++ "ms")
        ("Spread this work over several ticks or move it off the main " ++
          "thread while the server is under load.")]

/-- All issues in the order in which the rules find them. -/
def found (metrics : Metrics) (scripts : Scripts) (t : Thresholds) (load : Value) :
    Except Fault (List Issue) := do
  let records ← metrics.values.mapM (checkRecord t)
  let scripts ← scripts.values.mapM (checkScript t metrics)
  let load ← match ← usableLoad? load with
    | some load => checkLoad t metrics load
    | none => .ok []
  return records.flatten ++ scripts.flatten ++ load

def bySeverity (issues : List Issue) : List Issue :=
  issues.mergeSort fun a b => decide (b.severity.rank ≤ a.severity.rank)

end Detection

/-- The issues that the rules find, the most severe first. -/
def detect (metrics : Metrics) (scripts : Scripts) (t : Thresholds) (load : Value) :
    Except Fault (List Issue) :=
  (Detection.found metrics scripts t load).map Detection.bySeverity

def detectionLog (issues : List Issue) : LogEntry :=
  ⟨.info, .detector,
    "Analysis complete. Found " ++ wholeText issues.length ++ " potential issue(s)"⟩

end ScriptProfiling
