import ScriptProfiling.Log
import ScriptProfiling.Metric.Record
import ScriptProfiling.Number.Reading

/-!
# The aggregator

Executions are filed under their keys while a session runs and dropped otherwise. The
clocks are not part of the aggregator: an operation that needs a reading takes it.
-/
namespace ScriptProfiling

/-- The time of a session in seconds. A session that has ended keeps its end. -/
inductive Window where
  | unopened
  | running (start : Binary64)
  | ended (start finish : Binary64)
  deriving DecidableEq

structure Aggregator where
  window : Window
  records : Metrics

/-- An open span: what it will be called and when it began. -/
structure SpanHandle where
  identifier : String
  started : Int
  deriving DecidableEq, Repr

namespace Aggregator

def fresh : Aggregator := ⟨.unopened, .empty⟩

def active (a : Aggregator) : Bool :=
  match a.window with
  | .running _ => true
  | _ => false

def snapshot (a : Aggregator) : Metrics := a.records

/-- Begins to accept executions. Earlier records stay. -/
def start (a : Aggregator) (now : Binary64) : Logged (Bool × Aggregator) :=
  if a.active then .silent (false, a)
  else ⟨(true, { a with window := .running now }),
    [⟨.info, .aggregator, "Execution tracking started"⟩]⟩

def stop (a : Aggregator) (now : Binary64) : Logged (Bool × Aggregator) :=
  match a.window with
  | .running start => ⟨(true, { a with window := .ended start now }),
      [⟨.info, .aggregator, "Execution tracking stopped"⟩]⟩
  | _ => .silent (false, a)

/-- Drops every record and the session window, unless a session runs. -/
def reset (a : Aggregator) : Logged (Bool × Aggregator) :=
  if a.active then
    ⟨(false, a), [⟨.debug, .aggregator, "Ignoring reset while a session is active"⟩]⟩
  else .silent (true, fresh)

def millisBetween (start finish : Binary64) : Binary64 :=
  Binary64.max (.zero false) ((finish - start) * .nearest false 1000 1)

/-- How long the session has lasted, or did last. A clock that went back gives zero. -/
def durationMs (a : Aggregator) (now : Binary64) : Binary64 :=
  match a.window with
  | .unopened => .zero false
  | .running start => millisBetween start now
  | .ended start finish => millisBetween start finish

/-- The record of a key; a new one is filed only while a session runs. -/
def recordFor (a : Aggregator) (key : MetricKey) (name : String) :
    Option (Record Int) × Aggregator :=
  match a.records.get? key with
  | some r => (some r, a)
  | none =>
    if a.active then
      let r := Record.new key name
      (some r, { a with records := a.records.put key r })
    else (none, a)

/-- Puts an updated record in the place of its key. -/
def update (a : Aggregator) (r : Record Int) : Aggregator :=
  { a with records := a.records.put r.key r }

/-- One execution with its duration. A duration that is no whole number is refused only
after the record has been filed. -/
def recordSpan (a : Aggregator) (key : MetricKey) (duration : Value) (name : String) :
    Option Fault × Aggregator :=
  if !a.active then (none, a)
  else
    match a.recordFor key name with
    | (none, a) => (none, a)
    | (some r, a) =>
      match duration.toWhole with
      | .ok d => (none, a.update (r.timed d))
      | .error f => (some f, a)

def recordWhole (a : Aggregator) (key : MetricKey) (duration : Int) (name : String) : Aggregator :=
  (a.recordSpan key (.int duration) name).2

def recordOccurrence (a : Aggregator) (key : MetricKey) (name : String) : Aggregator :=
  if !a.active then a
  else
    match a.recordFor key name with
    | (none, a) => a
    | (some r, a) => a.update r.occurrence

def beginSpan (now : Int) (identifier : String) : SpanHandle := ⟨identifier, now⟩

/-- Closes a span. The name given now wins over the one given at its beginning. -/
def endSpan (a : Aggregator) (now : Int) (handle : Option SpanHandle) (key : MetricKey)
    (name : String) : Aggregator :=
  match handle with
  | none => a
  | some h => a.recordWhole key (now - h.started) (if name.isEmpty then h.identifier else name)

def recordCount (a : Aggregator) : Nat := a.records.size

end Aggregator
end ScriptProfiling
