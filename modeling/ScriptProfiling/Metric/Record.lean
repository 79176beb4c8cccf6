import ScriptProfiling.Catalog
import ScriptProfiling.Metric.Key
import ScriptProfiling.Number.Basic

/-!
# Execution records

A record adds up the executions of one element. Only positive durations count for the
longest and the shortest one: a duration that is zero or negative tells of a clock
that went wrong, but the execution took place.
-/
namespace ScriptProfiling

/-- Durations in nanoseconds, of a kind whose sums may fail. -/
class Measure (τ : Type) where
  zero : τ
  add : τ → τ → Except Fault τ
  lt : τ → τ → Bool
  divide : τ → Int → Except Fault Binary64

instance : Measure Int where
  zero := 0
  add m n := .ok (m + n)
  lt m n := decide (m < n)
  divide := quotient

instance : Measure Number where
  zero := .int 0
  add := Number.add
  lt := Number.lt
  divide := Number.divide

def nanosPerMilli : Nat := 1000000

structure Record (τ : Type) where
  key : MetricKey
  name : String
  count : Int
  total : τ
  longest : τ
  /-- Absent until a positive duration is seen. -/
  shortest : Option τ
  deriving DecidableEq

namespace Record

variable {τ : Type} [Measure τ]

/-- A record without executions; an element without a name goes by its kind. -/
def new (key : MetricKey) (name : String) : Record τ where
  key := key
  name := if name.isEmpty then key.kind else name
  count := 0
  total := Measure.zero
  longest := Measure.zero
  shortest := none

/-- An execution of unknown duration. -/
def occurrence (r : Record τ) : Record τ := { r with count := r.count + 1 }

def withPositive (r : Record τ) (d : τ) : Record τ :=
  { r with
    longest := if Measure.lt r.longest d then d else r.longest
    shortest := match r.shortest with
      | none => some d
      | some least => if Measure.lt d least then some d else some least }

def withDuration (r : Record τ) (total d : τ) : Record τ :=
  let r := { r with total := total }
  if Measure.lt Measure.zero d then r.withPositive d else r

/-- An execution with its duration. It is counted before the sum is tried. -/
def add (r : Record τ) (d : τ) : Record τ × Option Fault :=
  let counted := r.occurrence
  match Measure.add r.total d with
  | .ok total => (counted.withDuration total d, none)
  | .error f => (counted, some f)

/-- A timed execution of a whole number of nanoseconds. -/
def timed (r : Record Int) (d : Int) : Record Int := r.occurrence.withDuration (r.total + d) d

/-- An execution whose duration may be no number at all. -/
def addValue (r : Record Number) (v : Value) : Record Number × Option Fault :=
  match v.number? with
  | some d => r.add d
  | none => (r.occurrence, some (.notAddable r.total.toValue.typeName v.typeName))

def millis (d : τ) : Except Fault Binary64 := Measure.divide d nanosPerMilli

/-- The mean duration over all executions, also the untimed ones. -/
def averageMs (r : Record τ) : Except Fault Binary64 :=
  if r.count = 0 then .ok (.zero false)
  else (Measure.divide r.total r.count).map (·.divNat nanosPerMilli)

def totalMs (r : Record τ) : Except Fault Binary64 := millis r.total

def longestMs (r : Record τ) : Except Fault Binary64 := millis r.longest

def shortestMs (r : Record τ) : Except Fault Binary64 :=
  match r.shortest with
  | none => .ok (.zero false)
  | some d => millis d

omit [Measure τ] in
def describe (r : Record τ) : Except Fault String := do
  return "MetricRecord(" ++ (← r.key.location) ++ " " ++ r.key.kind ++ ", count=" ++
    (← wholeTextLimited r.count) ++ ")"

end Record

abbrev Metrics := Catalog MetricKey (Record Int)

end ScriptProfiling
