import ScriptProfiling.Script.Analysis

/-!
# Failures made by hosts

A host makes a failure from arguments in order: a message and details, or the facts of
its kind. Details are a mapping or a sequence of pairs.
-/
namespace ScriptProfiling

/-- The first fault among values that cannot be keys. -/
def Value.keyFault? : Value → Option Fault
  | .list _ => some (.unhashable "list")
  | .table _ => some (.unhashable "dict")
  | _ => none

namespace Failure

/-- The entry that an item of a sequence of pairs stands for. -/
def entryOf (place : Nat) (item : Value) : Except Fault (String × Value) :=
  match item.items? with
  | none => .error (.entryNotSequence place)
  | some [key, value] =>
    match key.keyFault? with
    | some f => .error f
    | none => .ok (key.display, value)
  | some items => .error (.entryLength place items.length)

/-- Entries of a sequence of pairs, of which a later one replaces an earlier one of its key. -/
def entriesOf (items : List Value) : Except Fault (List (String × Value)) := do
  let found ← items.zipIdx.mapM fun item => entryOf item.2 item.1
  return found.foldl (fun entries e => Catalog.fileIn e.1 e.2 entries) []

/-- Values that count as false stand for no details. -/
def detailsOf (v : Value) : Except Fault (List (String × Value)) :=
  match v with
  | .table fields => .ok fields
  | v => if v.truthy then do entriesOf (← v.items) else .ok []

/-- The names of the arguments that a kind needs, and the operation that takes them. A
kind without facts of its own takes a message and perhaps details. -/
def signature : FailureKind → String × List String
  | .scriptRead => ("ScriptReadError", ["filepath", "reason"])
  | .traceFormat => ("TraceFormatError", ["line_number", "reason"])
  | .invalidSetting => ("InvalidConfigError", ["key", "value", "reason"])
  | .profiling | .analysis | .configuration => ("SkriptProfilerError", ["message"])

/-- How many arguments more than it needs a kind may take. -/
def optionalCount : FailureKind → Nat
  | .profiling | .analysis | .configuration => 1
  | _ => 0

/-- A failure of a kind without facts of its own. -/
def plain (kind : FailureKind) (message : Value) (details : List (String × Value)) : Failure :=
  match kind with
  | .analysis => .analysis message details
  | .configuration => .configuration message details
  | _ => .profiling message details

/-- The failure that a host makes. -/
def ofArguments (kind : FailureKind) (args : List Value) : Except Fault Failure :=
  let (owner, needed) := signature kind
  let most := needed.length + optionalCount kind
  match kind, args with
  | .scriptRead, [path, reason] => .ok (.scriptRead path reason)
  | .traceFormat, [line, reason] => .ok (.traceFormat line reason)
  | .invalidSetting, [key, value, reason] => .ok (.invalidSetting key value reason)
  | .profiling, [message] | .analysis, [message] | .configuration, [message] =>
    .ok (plain kind message [])
  | .profiling, [message, details] | .analysis, [message, details]
  | .configuration, [message, details] => (detailsOf details).map (plain kind message)
  | _, args =>
    if args.length < needed.length then
      .error (.missingArguments (constructionOf owner) (needed.drop args.length))
    else .error (.surplusArguments (constructionOf owner) (needed.length + 1) (most + 1)
      (args.length + 1))

/-- The full text, which without details is the message alone, and then has to be a text. -/
def shown (f : Failure) : Except Fault String :=
  match f.details, f.message with
  | [], .text s => .ok s
  | [], m => .error (.messageNotText m.typeName)
  | _, _ => .ok f.text

end Failure
end ScriptProfiling
