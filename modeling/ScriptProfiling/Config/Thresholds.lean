import ScriptProfiling.Number.Basic

/-!
# Thresholds

The limits that detection and reports compare with. Every number of the program that
one may want to change is here.
-/
namespace ScriptProfiling

structure Thresholds where
  slowMs : Number
  verySlowMs : Number
  frequencyCount : Number
  frequencyTotalMs : Number
  loopCount : Number
  waitTicks : Number
  variableCount : Number
  lowLoad : Number
  maxIssues : Number
  topSlowest : Number
  /-- Suggestions are printed unless this value counts as false. -/
  suggestions : Value

/-- The floating-point number `n`. -/
def wholeFloat (n : Nat) : Number := .float (.nearest false n 1)

namespace Thresholds

def default : Thresholds where
  slowMs := wholeFloat 50
  verySlowMs := wholeFloat 200
  frequencyCount := .int 1000
  frequencyTotalMs := wholeFloat 1000
  loopCount := .int 1000
  waitTicks := .int 100
  variableCount := .int 500
  lowLoad := wholeFloat 18
  maxIssues := .int 10
  topSlowest := .int 10
  suggestions := .bool true

instance : Inhabited Thresholds := ⟨default⟩

/-- All settings by name, in their order. -/
def fields (t : Thresholds) : List (String × Value) :=
  [("slow_execution_ms", t.slowMs.toValue),
   ("very_slow_execution_ms", t.verySlowMs.toValue),
   ("high_frequency_count", t.frequencyCount.toValue),
   ("high_frequency_total_ms", t.frequencyTotalMs.toValue),
   ("loop_iteration_count", t.loopCount.toValue),
   ("long_wait_ticks", t.waitTicks.toValue),
   ("excessive_variable_count", t.variableCount.toValue),
   ("low_load_threshold", t.lowLoad.toValue),
   ("max_reported_issues", t.maxIssues.toValue),
   ("top_slowest_count", t.topSlowest.toValue),
   ("include_suggestions", t.suggestions)]

def fieldNames : List String := default.fields.map Prod.fst

/-- The named arguments of one call; of two with the same name the first counts. -/
abbrev Arguments := List (String × Value)

def argument (args : Arguments) (name : String) : Value :=
  match args.lookup name with
  | some v => v
  | none => (default.fields.lookup name).getD .null

/-- A number for a comparison with a whole number. -/
def comparable (relation : String) (v : Value) (against : String) : Except Fault Number :=
  match v.number? with
  | some x => .ok x
  | none => .error (.incomparable relation v.typeName against)

def require (holds : Bool) (rule : String) : Except Fault Unit :=
  if holds then .ok () else .error (.outOfBounds rule)

def notNegative (args : Arguments) (name : String) : Except Fault Number := do
  let x ← comparable "<" (argument args name) "int"
  require (!x.lt (.int 0)) (name ++ " must be non-negative")
  return x

def atLeastOne (args : Arguments) (name : String) : Except Fault Number := do
  let x ← comparable "<" (argument args name) "int"
  require (!x.lt (.int 1)) (name ++ " must be at least 1")
  return x

/-- Thresholds from arguments and defaults. The checks run in the order of the fields,
and the first that fails is the fault. -/
def ofArguments (args : Arguments) : Except Fault Thresholds := do
  if let some (name, _) := args.find? fun a => !fieldNames.contains a.1 then
    throw (.ofKeyword "ThresholdConfig" name)
  let slow ← comparable "<=" (argument args "slow_execution_ms") "int"
  require (!slow.le (.int 0)) "slow_execution_ms must be positive"
  let verySlow ← comparable "<" (argument args "very_slow_execution_ms") slow.toValue.typeName
  require (!verySlow.lt slow) "very_slow_execution_ms must not be below slow_execution_ms"
  let frequency ← notNegative args "high_frequency_count"
  let frequencyTotal ← notNegative args "high_frequency_total_ms"
  let loops ← notNegative args "loop_iteration_count"
  let waits ← notNegative args "long_wait_ticks"
  let accesses ← notNegative args "excessive_variable_count"
  let load ← notNegative args "low_load_threshold"
  let issues ← atLeastOne args "max_reported_issues"
  let slowest ← atLeastOne args "top_slowest_count"
  return {
    slowMs := slow
    verySlowMs := verySlow
    frequencyCount := frequency
    frequencyTotalMs := frequencyTotal
    loopCount := loops
    waitTicks := waits
    variableCount := accesses
    lowLoad := load
    maxIssues := issues
    topSlowest := slowest
    suggestions := argument args "include_suggestions" }

end Thresholds
end ScriptProfiling
