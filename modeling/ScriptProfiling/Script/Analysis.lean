import ScriptProfiling.Log
import ScriptProfiling.Script.Info
import ScriptProfiling.Value.Writing

/-!
# Analysis of batches

A batch is what a host hands over, so its items may be malformed. Each one that cannot
be analysed is skipped with a warning; the others do not depend on it. The warning may have
to write out what stands in the place of a path: if that lies too deep for the room on the
stack, no script of the batch is kept.
-/
namespace ScriptProfiling

namespace Value

/-- The items of a value that has items: text has its characters, a table its names. -/
def items? : Value → Option (List Value)
  | .list xs | .tuple xs => some xs
  | .text s => some (s.toList.map fun c => .text (String.singleton c))
  | .bytes bs => some (bs.map fun b => .int b.toNat)
  | .table fields => some (fields.map fun f => .text f.1)
  | _ => none

def items (v : Value) : Except Fault (List Value) :=
  match v.items? with
  | some xs => .ok xs
  | none => .error (.notIterable v.typeName)

def pair (v : Value) : Except Fault (Value × Value) :=
  match v.items? with
  | none => .error (.notUnpackable v.typeName)
  | some [x, y] => .ok (x, y)
  | some xs => .error (if xs.length < 2 then .tooFewToUnpack xs.length else .tooManyToUnpack)

end Value

namespace ScriptInfo

/-- The refusal of what is no path. -/
def badPath (written : String) : Fault := .scriptRead written "path must be a non-empty string"

/-- The path that a value gives. Any other value is written out in the refusal, for which there
is so much room. -/
def pathOf (room : Nat) : Value → Except Fault String
  | .path s => .ok s
  | .text s => if s.isEmpty then .error (badPath (quoted s)) else .ok s
  | value => value.written room >>= fun written => .error (badPath written)

def lineOf (path : String) : Value → Except Fault String
  | .text s => .ok s
  | value => .error (.scriptRead path ("non-text line of type " ++ value.kindName))

def linesOf (path : String) : Value → Except Fault (List String)
  | .list xs | .tuple xs => xs.mapM (lineOf path)
  | _ => .error (.scriptRead path "lines must be a sequence of strings")

/-- The facts of a script whose path and lines are still to be checked. -/
def ofValues (room : Nat) (path lines : Value) : Except Fault ScriptInfo := do
  let path ← pathOf room path
  ofLines path (← linesOf path lines)

def ofItem (room : Nat) (item : Value) : Except Fault ScriptInfo := do
  let (path, lines) ← item.pair
  ofValues room path lines

end ScriptInfo

/-- Whether a fault spoils one script only. -/
def Fault.spoilsScript (f : Fault) : Bool :=
  f.isRefusal || f.cls == .failure .scriptRead

structure Batch where
  scripts : Scripts
  warnings : List String

namespace Batch

def empty : Batch := ⟨.empty, []⟩

def warning (f : Fault) : String := "Skipped script: " ++ f.message

/-- The batch with one item more; a fault that spoils more than the item goes through. -/
def add (room : Nat) (b : Batch) (item : Value) : Except Fault Batch :=
  match ScriptInfo.ofItem room item with
  | .ok info => .ok { b with scripts := b.scripts.put info.path info }
  | .error f =>
    if f.spoilsScript then .ok { b with warnings := b.warnings ++ [warning f] } else .error f

/-- The batch with some items more, and the fault that ends it before its last item, if
there is one. -/
def addAll (room : Nat) (b : Batch) : List Value → Batch × Option Fault
  | [] => (b, none)
  | item :: items =>
    match b.add room item with
    | .ok b => b.addAll room items
    | .error f => (b, some f)

def ofItems (room : Nat) (items : List Value) : Batch × Option Fault := addAll room empty items

/-- The entries for the warnings, then one for the whole batch. -/
def warningLog (b : Batch) : List LogEntry := b.warnings.map (⟨.warning, .analyzer, ·⟩)

def summary (b : Batch) : LogEntry :=
  ⟨.info, .analyzer, "Analysed " ++ wholeText b.scripts.size ++ " script file(s)"⟩

def log (b : Batch) : List LogEntry := b.warningLog ++ [b.summary]

end Batch
end ScriptProfiling
