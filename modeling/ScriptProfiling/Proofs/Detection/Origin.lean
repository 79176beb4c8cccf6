import ScriptProfiling.Detection
import Mathlib.Data.Prod.Lex
import Mathlib.Order.WithBot
import Mathlib.Tactic

/-!
# Where issues come from

A rule looks at a record, at a line of a script, at a whole script or at the load. Each
such place is an origin; what the rule says of it is stated here without regard to the
order in which detection goes about. Origins have a position in the order of evaluation:
records in their order, then scripts in theirs, each line by line and then as a whole,
and the load at the end.
-/
namespace ScriptProfiling

/-- All of an issue but its words. -/
structure Site where
  kind : IssueKind
  severity : Severity
  file : String
  line : Int
  trigger : Option MetricKey
  deriving DecidableEq, Repr

def Issue.site (i : Issue) : Site := ⟨i.kind, i.severity, i.file, i.line, i.trigger⟩

/-- Records and scripts are known by their place in the order of filing. -/
inductive Origin where
  | slow (record : Nat)
  | frequent (record : Nat)
  | loop (script : Nat) (line : Int)
  | wait (script : Nat) (line : Int)
  | accesses (script : Nat)
  | load
  deriving DecidableEq, Repr

namespace Origin

/-- The stage, the record or script, the line, and the turn at it. The check of a whole
script comes after all of its lines. -/
def position : Origin → ℕ ×ₗ ℕ ×ₗ WithTop ℤ ×ₗ ℕ
  | .slow i => toLex (0, toLex (i, toLex (⊤, 0)))
  | .frequent i => toLex (0, toLex (i, toLex (⊤, 1)))
  | .loop i line => toLex (1, toLex (i, toLex ((line : WithTop ℤ), 0)))
  | .wait i line => toLex (1, toLex (i, toLex ((line : WithTop ℤ), 1)))
  | .accesses i => toLex (1, toLex (i, toLex (⊤, 0)))
  | .load => toLex (2, toLex (0, toLex (⊤, 0)))

/-- The kind of issue that is looked for. -/
def kind : Origin → IssueKind
  | .slow _ => .slowEvent
  | .frequent _ => .highFrequency
  | .loop _ _ => .inefficientLoop
  | .wait _ _ => .longWait
  | .accesses _ => .excessiveVariables
  | .load => .loadImpact

/-- One origin is looked at before another. -/
def Before (o p : Origin) : Prop := o.position < p.position

end Origin

namespace Detection

/-- A site at the record that triggers the issue. -/
def siteOf (r : Record Int) (kind : IssueKind) (severity : Severity) : Site :=
  ⟨kind, severity, r.key.file, r.key.line, some r.key⟩

section Records

variable (t : Thresholds) (r : Record Int)

def verySlow : Bool :=
  r.longestMs.toOption.any fun longest => (Number.float longest).ge t.verySlowMs

def slow : Bool := r.averageMs.toOption.any fun average => (Number.float average).ge t.slowMs

def costly : Bool := r.totalMs.toOption.any fun total => (Number.float total).gt t.frequencyTotalMs

def slowSite : Option Site :=
  if verySlow t r then some (siteOf r .slowEvent .critical)
  else if slow t r then some (siteOf r .slowEvent .high)
  else none

def frequentSite : Option Site :=
  if aboveLimit r.count t.frequencyCount then
    some (siteOf r .highFrequency (if costly t r then .high else .medium))
  else none

end Records

section Scripts

variable (metrics : Metrics) (t : Thresholds) (s : ScriptInfo)

/-- A loop is judged by the first record at its place. -/
def loopSite (line : Int) : Option Site :=
  if line ∈ s.loopLines then
    (firstOnLine? metrics s.path line).bind fun r =>
      if aboveLimit r.count t.loopCount then
        some ⟨.inefficientLoop, .medium, s.path, line, some r.key⟩
      else none
  else none

/-- A wait in an unknown unit is not judged. -/
def waitSite (line : Int) : Option Site :=
  (s.waits.get? line).bind fun w => w.ticks?.bind fun ticks =>
    if aboveLimit ticks t.waitTicks then some ⟨.longWait, .low, s.path, line, none⟩ else none

def accessSite : Option Site :=
  if aboveLimit s.variableAccesses t.variableCount then
    some ⟨.excessiveVariables, .medium, s.path, 1, none⟩
  else none

end Scripts

/-- The first record with the largest total. -/
def firstLargest? (rs : List (Record Int)) : Option (Record Int) :=
  rs.find? fun r => rs.all fun q => q.total ≤ r.total

/-- The load that is usable, if the sample is one at all. -/
def usable? (load : Value) : Option Number := ((usableLoad? load).toOption).join

section Verdicts

variable (metrics : Metrics) (scripts : Scripts) (t : Thresholds) (load : Value)
  (strained : Number → Number → Bool)

/-- A usable load that strains the host is blamed on the record with the largest total. -/
def loadSite : Option Site :=
  (usable? load).bind fun x =>
    if strained x t.lowLoad then
      (firstLargest? metrics.values).map fun r => siteOf r .loadImpact .high
    else none

/-- What the rule of an origin says: an issue or nothing. When a load strains the host
is a parameter. -/
def verdict : Origin → Option Site
  | .slow i => metrics.values[i]?.bind (slowSite t)
  | .frequent i => metrics.values[i]?.bind (frequentSite t)
  | .loop i line => scripts.values[i]?.bind fun s => loopSite metrics t s line
  | .wait i line => scripts.values[i]?.bind fun s => waitSite t s line
  | .accesses i => scripts.values[i]?.bind (accessSite t)
  | .load => loadSite metrics t load strained

/-- The origins of a record. -/
def recordOrigins (i : Nat) : List Origin := [.slow i, .frequent i]

/-- The origins of a script, in the order in which they are looked at. -/
def scriptOrigins (i : Nat) : List Origin :=
  (scripts.values[i]?.elim [] fun s =>
    (watchedLines s).flatMap fun line => [.loop i line, .wait i line]) ++ [.accesses i]

/-- All origins, in the order in which they are looked at. -/
def origins : List Origin :=
  (List.range metrics.values.length).flatMap recordOrigins ++
    (List.range scripts.values.length).flatMap (scriptOrigins scripts) ++ [.load]

end Verdicts

end Detection
end ScriptProfiling
