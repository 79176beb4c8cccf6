import ScriptProfiling.Detection
import ScriptProfiling.Markup.Escape

/-!
# The text report

A report is markup in lines: a summary, the slowest operations, the issues, on request
a breakdown by script, and recommendations. Every style that a line opens it also
closes, and all text from scripts is escaped.
-/
namespace ScriptProfiling

def noDataMessage : String := "No profiling data available. Start profiling first!"

/-- What a report is about. -/
structure ReportInput where
  metrics : Metrics
  issues : List Issue
  scripts : Scripts
  durationMs : Number
  load : Value

namespace Report

/-- Text in a style, closed by the style's name. -/
def styled (style text : String) : String := "[" ++ style ++ "]" ++ text ++ "[/" ++ style ++ "]"

def heading (title : String) : String := styled "bold cyan" title

def rule : String := String.ofList (List.replicate 60 '═')

def header (title : String) : List String :=
  [styled "gold1" rule, styled "bold yellow" ("  " ++ title), styled "gold1" rule]

/-- The sample if it is usable, else the default. -/
def resolveLoad (default : Number) (load : Value) : Except Fault Number := do
  return (← usableLoad? load).getD default

/-- Floating-point numbers added up from the left. -/
def sumFloats (xs : List Binary64) : Binary64 := xs.foldl (· + ·) (.zero false)

def summary (input : ReportInput) (load : Number) : Except Fault (List String) := do
  let records := input.metrics.values
  let total ← records.mapM Record.totalMs
  let duration ← input.durationMs.toFloat
  let loadText ← load.hundredths
  let executions ← wholeTextLimited (records.foldl (fun total r => total + r.count) 0)
  return [heading "Summary:",
    "  Duration: " ++ (duration.divNat 1000).fixedText 2 ++ " seconds",
    "  Current TPS: " ++ loadText,
    "  Scripts Analyzed: " ++ wholeText input.scripts.size,
    "  Total Events/Functions Tracked: " ++ wholeText records.length,
    "  Total Executions: " ++ executions,
    "  Total Execution Time: " ++ (sumFloats total).fixedText 2 ++ "ms"]

/-- A record with its average. -/
structure Rated where
  record : Record Int
  average : Binary64

def rate (r : Record Int) : Except Fault Rated := (r.averageMs).map (⟨r, ·⟩)

/-- The slowest first; records of equal averages keep their order. -/
def slowestFirst (records : List (Record Int)) : Except Fault (List Rated) :=
  (records.mapM rate).map fun rated => rated.mergeSort fun a b => !a.average.lt b.average

/-- The first items of a list, as many as a limit says, which must be whole. -/
def firstOf {α : Type} (limit : Number) (xs : List α) : Except Fault (List α) :=
  match limit.whole? with
  | some n => .ok (xs.take n.toNat)
  | none => .error .badSliceBound

def speedStyle (average : Binary64) : String :=
  if (Number.float average).gt (.int 100) then "red"
  else if (Number.float average).gt (.int 50) then "yellow"
  else "green"

def shortLocation (file : String) (line : Int) : Except Fault String :=
  MetricKey.locationText (String.ofList (shortFileName file.toList)) line

/-- The two lines of a slow operation. -/
def slowLines (rank : Nat) (r : Rated) : Except Fault (List String) := do
  let place ← shortLocation r.record.key.file r.record.key.line
  let title := wholeText rank ++ ". " ++ escapeMarkup place ++ " - " ++
    escapeMarkup r.record.name
  let longest ← r.record.longestMs
  return ["  " ++ styled (speedStyle r.average) title,
    "     Avg: " ++ r.average.fixedText 2 ++ "ms | Max: " ++ longest.fixedText 2 ++
      "ms | Count: " ++ (← wholeTextLimited r.record.count)]

/-- Each item with its rank, from the given one on. -/
def ranked {α : Type} (rank : Nat) : List α → List (Nat × α)
  | [] => []
  | x :: xs => (rank, x) :: ranked (rank + 1) xs

def slowestSection (t : Thresholds) (records : List (Record Int)) : Except Fault (List String) := do
  let listed ← firstOf t.topSlowest (← slowestFirst records)
  let lines ← (ranked 1 listed).mapM fun r => slowLines r.1 r.2
  return heading "Top Slowest Operations:" :: lines.flatten

def severityStyle : Severity → String
  | .critical => "bold dark_red"
  | .high => "red"
  | .medium => "yellow"
  | .low => "white"

def issueLines (t : Thresholds) (i : Issue) : Except Fault (List String) := do
  let place ← shortLocation i.file i.line
  return ["",
    "  " ++ styled (severityStyle i.severity)
      ("\\[" ++ i.severity.label ++ "] " ++ i.kind.displayName),
    "  Location: " ++ escapeMarkup place,
    "  Issue: " ++ escapeMarkup i.description] ++
    if t.suggestions.truthy then
      ["  " ++ styled "green" ("Suggestion: " ++ escapeMarkup i.suggestion)]
    else []

/-- How many issues are beyond the limit. -/
def hiddenLines (t : Thresholds) (count : Nat) : List String :=
  match t.maxIssues.whole? with
  | some limit =>
    if limit < count then
      ["", "  ... and " ++ wholeText (count - limit) ++ " more issue(s)"]
    else []
  | none => []

def issuesSection (t : Thresholds) (issues : List Issue) : Except Fault (List String) :=
  if issues.isEmpty then
    .ok [heading "Performance Issues:", "  No performance issues detected."]
  else do
    let listed ← firstOf t.maxIssues issues
    let lines ← listed.mapM (issueLines t)
    return heading "Performance Issues Detected:" ::
      (lines.flatten ++ hiddenLines t issues.length)

/-- How many lines a script has in the breakdown. -/
def linesPerScript : Number := .int 5

/-- Files in the order of their first record. -/
def filesOf (records : List (Record Int)) : List String :=
  (records.foldl (fun c r => c.put r.key.file ()) (Catalog.empty : Catalog String Unit)).keys

def factLines (s : ScriptInfo) : Except Fault (List String) := do
  return ["    Events: " ++ (← wholeTextLimited s.events) ++ " | Functions: " ++
      (← wholeTextLimited s.functions) ++ " | Commands: " ++ (← wholeTextLimited s.commands),
    "    Loops: " ++ (← wholeTextLimited s.loops) ++ " | Variable accesses: " ++
      (← wholeTextLimited s.variableAccesses)]

def knownFacts (input : ReportInput) (file : String) : Except Fault (List String) :=
  match input.scripts.get? file with
  | some info => factLines info
  | none => .ok []

def breakdownLine (r : Rated) : Except Fault String := do
  return "    Line " ++ (← wholeTextLimited r.record.key.line) ++ ": " ++ r.average.fixedText 2 ++
    "ms avg (" ++ (← wholeTextLimited r.record.count) ++ " executions)"

/-- The block of one file: its short name, its facts if the script is known, and its
slowest records. -/
def fileBlock (input : ReportInput) (file : String) : Except Fault (List String) := do
  let records := input.metrics.values.filter (·.key.file == file)
  let facts ← knownFacts input file
  let listed ← firstOf linesPerScript (← slowestFirst records)
  let lines ← listed.mapM breakdownLine
  return ["", "  " ++ styled "yellow"
    (escapeMarkup (String.ofList (shortFileName file.toList)) ++ ":")] ++ facts ++ lines

def breakdown (input : ReportInput) : Except Fault (List String) := do
  let blocks ← (filesOf input.metrics.values).mapM (fileBlock input)
  return heading "Detailed Breakdown by Script:" :: blocks.flatten

/-- Advice that is given when an issue of its kind was found. -/
def kindTips : List (IssueKind × String) :=
  [(.slowEvent, "Optimize slow event handlers to improve server responsiveness"),
   (.inefficientLoop, "Review loops for unnecessary iterations or complex operations"),
   (.excessiveVariables,
     "Consider reducing variable operations or using more efficient data structures"),
   (.longWait, "Shorten or remove long waits that hold scripts open"),
   (.highFrequency, "Debounce or batch code paths that run thousands of times"),
   (.loadImpact, "Profile again at low load to separate script cost from server lag")]

def generalTips : List String :=
  ["Use a detailed report for line-by-line analysis",
   "Consider async operations for I/O-heavy tasks",
   "Cache frequently accessed data when possible"]

def recommendations (issues : List Issue) : List String :=
  let tips := (kindTips.filter fun tip => issues.any (·.kind == tip.1)).map (·.2)
  heading "General Recommendations:" :: (tips ++ generalTips).map ("  • " ++ ·)

/-- The lines of a report over at least one record. -/
def lines (t : Thresholds) (default : Number) (input : ReportInput) (detailed : Bool) :
    Except Fault (List String) := do
  let load ← resolveLoad default input.load
  let overview ← summary input load
  let slowest ← slowestSection t input.metrics.values
  let issues ← issuesSection t input.issues
  let details ← if detailed then (breakdown input).map (· ++ [""]) else .ok []
  return header "SKRIPT PROFILER REPORT" ++ [""] ++ overview ++ [""] ++ slowest ++ [""] ++
    issues ++ [""] ++ details ++ recommendations input.issues

/-- The whole report. Without records there is nothing to report on. -/
def render (t : Thresholds) (default : Number) (input : ReportInput) (detailed : Bool) :
    Except Fault String :=
  if input.metrics.isEmpty then .ok noDataMessage
  else (lines t default input detailed).map joinLines

end Report
end ScriptProfiling
