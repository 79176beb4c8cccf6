import ScriptProfiling.Metric.Key

/-!
# Issues

What detection finds: a kind, an urgency, a place in a script, and words for the user.
-/
namespace ScriptProfiling

inductive Severity where
  | low
  | medium
  | high
  | critical
  deriving DecidableEq, Repr

namespace Severity

def rank : Severity → Nat
  | .low => 0
  | .medium => 1
  | .high => 2
  | .critical => 3

def all : List Severity := [.critical, .high, .medium, .low]

def label : Severity → String
  | .low => "LOW"
  | .medium => "MEDIUM"
  | .high => "HIGH"
  | .critical => "CRITICAL"

def name : Severity → String
  | .low => "low"
  | .medium => "medium"
  | .high => "high"
  | .critical => "critical"

end Severity

inductive IssueKind where
  | slowEvent
  | inefficientLoop
  | longWait
  | excessiveVariables
  | highFrequency
  | loadImpact
  deriving DecidableEq, Repr

namespace IssueKind

def all : List IssueKind :=
  [.slowEvent, .inefficientLoop, .longWait, .excessiveVariables, .highFrequency, .loadImpact]

def name : IssueKind → String
  | .slowEvent => "slow-event"
  | .inefficientLoop => "inefficient-loop"
  | .longWait => "long-wait"
  | .excessiveVariables => "excessive-variables"
  | .highFrequency => "high-frequency"
  | .loadImpact => "load-impact"

def displayName : IssueKind → String
  | .slowEvent => "Slow Event Execution"
  | .inefficientLoop => "Inefficient Loop"
  | .longWait => "Excessive Wait/Delay"
  | .excessiveVariables => "Excessive Variable Access"
  | .highFrequency => "High Execution Frequency"
  | .loadImpact => "Load Impact Detected"

end IssueKind

structure Issue where
  kind : IssueKind
  severity : Severity
  file : String
  line : Int
  description : String
  suggestion : String
  /-- The key of the record that triggered the issue, if one did. -/
  trigger : Option MetricKey
  deriving DecidableEq, Repr

def Issue.location (i : Issue) : Except Fault String := MetricKey.locationText i.file i.line

end ScriptProfiling
