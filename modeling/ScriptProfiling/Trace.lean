import ScriptProfiling.Aggregator
import ScriptProfiling.Json.Reading
import ScriptProfiling.Json.Writing
import ScriptProfiling.Text.Lines

/-!
# Traces

A trace has one JSON object a line. An entry with a duration is a span, one without
is an occurrence. Blank lines and lines that begin with a number sign say nothing.
-/
namespace ScriptProfiling

structure TraceEntry where
  key : MetricKey
  name : String
  duration : Option Int
  deriving DecidableEq, Repr

/-- A fault of the kinds that reading a field may have, which spoils its line only. -/
def Fault.spoilsLine (f : Fault) : Bool := f.isRefusal || f.cls == .overflow

namespace TraceEntry

/-- A value as text, refused when it holds a whole number beyond the limit for writing. -/
def shown (x : Json) : Except Fault String :=
  if x.writable then .ok x.toValue.display else .error .numberTooLong

def finiteWhole (v : Value) : Except Fault Int :=
  match v with
  | .float x => if x.isFinite then x.truncate else .error (.notFinite x.text)
  | v => v.toWhole

/-- A field that cannot be read makes its line malformed, for the reason that `before`
begins. A fault of another kind goes through. -/
def readField {α : Type} (line : Nat) (before : String) (field : Except Fault α) : Except Fault α :=
  match field with
  | .ok x => .ok x
  | .error f => if f.spoilsLine then .error (.traceFormat line (before ++ f.message)) else .error f

def required (line : Nat) (fields : List (String × Json)) (name : String) : Except Fault Json :=
  match Catalog.lookup name fields with
  | some x => .ok x
  | none => .error (.traceFormat line ("missing field " ++ quoted name))

def optionalText (fields : List (String × Json)) (name default : String) : Except Fault String :=
  match Catalog.lookup name fields with
  | some x => shown x
  | none => .ok default

def keyOf (line : Nat) (fields : List (String × Json)) : Except Fault MetricKey := do
  let file ← readField line "" (shown (← required line fields "file"))
  let number ← readField line "" (← required line fields "line").toValue.toWhole
  let kind ← readField line "" (optionalText fields "kind" "event")
  return ⟨file, number, kind⟩

/-- Nanoseconds win over milliseconds. -/
def durationOf (fields : List (String × Json)) : Except Fault (Option Int) :=
  match Catalog.lookup "duration_ns" fields with
  | some x => (finiteWhole x.toValue).map some
  | none =>
    match Catalog.lookup "duration_ms" fields with
    | none => .ok none
    | some x => do
      let millis ← x.toValue.toFloat
      return some (← finiteWhole (.float (millis * .nearest false nanosPerMilli 1)))

/-- The entry that an object describes. A fault in its name is not one of the line. -/
def ofFields (line : Nat) (fields : List (String × Json)) : Except Fault TraceEntry := do
  let key ← keyOf line fields
  let duration ← readField line "bad duration: " (durationOf fields)
  return ⟨key, ← optionalText fields "name" "", duration⟩

/-- The entry on a line. A numeral beyond the limit of digits is a fault of its own kind. -/
def parse (text : String) (line : Nat) : Except Fault TraceEntry :=
  match Json.parse text with
  | .error (.numeralTooLong digits) => .error (.numeralTooLong digits)
  | .error f => .error (.traceFormat line ("invalid JSON: " ++ f.message))
  | .ok (.object fields) => ofFields line fields
  | .ok _ => .error (.traceFormat line "expected a JSON object")

end TraceEntry

/-- What was read of a trace: its entries in order, the warnings, and the fault that
ended the reading early if there was one. -/
structure TraceReading where
  entries : List TraceEntry
  log : List LogEntry
  fault : Option Fault

namespace TraceReading

def nothing : TraceReading := ⟨[], [], .none⟩

def skipped (f : Fault) : LogEntry := ⟨.warning, .trace, "Skipping trace entry: " ++ f.message⟩

def saysNothing (cs : List Char) : Bool := cs.isEmpty || cs.head? == some '#'

/-- The lines of a trace, the first of which has the given number. -/
def ofLines (number : Nat) : List (List Char) → TraceReading
  | [] => nothing
  | line :: lines =>
    let text := strip line
    if saysNothing text then ofLines (number + 1) lines
    else
      match TraceEntry.parse (String.ofList text) number with
      | .ok entry =>
        let rest := ofLines (number + 1) lines
        { rest with entries := entry :: rest.entries }
      | .error f =>
        if f.cls == .failure .traceFormat then
          let rest := ofLines (number + 1) lines
          { rest with log := skipped f :: rest.log }
        else ⟨[], [], some f⟩

/-- The reading with a fault at its end, unless an earlier one has ended it. -/
def endingIn (f : Fault) (r : TraceReading) : TraceReading :=
  match r.fault with
  | some _ => r
  | .none => { r with fault := some f }

/-- A stream whose lines end at line feeds. -/
def ofText (text : String) : TraceReading := ofLines 1 (feedLines text.toList)

end TraceReading

namespace Aggregator

def replayEntry (a : Aggregator) (e : TraceEntry) : Aggregator :=
  match e.duration with
  | none => a.recordOccurrence e.key e.name
  | some d => a.recordWhole e.key d e.name

/-- Feeds entries in order; an inactive aggregator drops them. -/
def replay (a : Aggregator) (entries : List TraceEntry) : Aggregator := entries.foldl replayEntry a

/-- A replay that counts its entries, also those that an inactive aggregator drops. -/
def replayCounted (a : Aggregator) (entries : List TraceEntry) : Nat × Aggregator :=
  entries.foldl (fun done e => (done.1 + 1, done.2.replayEntry e)) (0, a)

end Aggregator
end ScriptProfiling
