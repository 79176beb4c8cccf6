import ScriptProfiling.Catalog
import ScriptProfiling.Files.Path
import ScriptProfiling.Script.Line

/-!
# Facts about a script

A script's facts are put together from the facts of its lines. Lines are numbered
from one.
-/
namespace ScriptProfiling

structure Wait where
  amount : Int
  unit : String
  deriving DecidableEq, Repr

def Wait.text (w : Wait) : String := wholeText w.amount ++ " " ++ w.unit

inductive Label where
  | event (trigger : String)
  | function (name : String)
  | command (name : String)
  | loop
  | wait (statement : Wait)
  deriving DecidableEq, Repr

def Label.text : Label → String
  | .event trigger => "Event: " ++ trigger
  | .function name => "Function: " ++ name
  | .command name => "Command: " ++ name
  | .loop => "Loop"
  | .wait statement => "Wait: " ++ statement.text

structure LineFacts where
  event? : Option String
  function? : Option String
  command? : Option String
  loop : Bool
  wait? : Option Wait
  variableAccesses : Nat
  deriving DecidableEq, Repr

namespace LineFacts

/-- Labels in the fixed order of the detectors. -/
def labels (f : LineFacts) : List Label :=
  (f.event?.map Label.event).toList ++ (f.function?.map Label.function).toList ++
    (f.command?.map Label.command).toList ++ (if f.loop then [.loop] else []) ++
    (f.wait?.map Label.wait).toList

/-- A wait of more digits than the limit cannot be taken over. -/
def waitOf (raw : Line.RawWait) : Except Fault Wait :=
  if digitLimit < raw.digits.length then .error (.numeralTooLong raw.digits.length)
  else .ok ⟨digitsValue raw.digits, String.ofList raw.unit⟩

def ofLine (line : String) : Except Fault LineFacts := do
  let cs := line.toList
  let wait? ← match Line.wait? cs with
    | some raw => (waitOf raw).map some
    | none => .ok none
  return {
    event? := (Line.event? cs).map String.ofList
    function? := (Line.function? cs).map String.ofList
    command? := (Line.command? cs).map String.ofList
    loop := Line.hasLoop cs
    wait? := wait?
    variableAccesses := Line.variableAccesses cs }

end LineFacts

structure ScriptInfo where
  path : String
  name : String
  lines : List String
  labels : Catalog Int (List Label)
  loopLines : List Int
  waits : Catalog Int Wait
  events : Int
  functions : Int
  commands : Int
  loops : Int
  variableAccesses : Int

namespace ScriptInfo

/-- Entries filed under the numbers of their lines. -/
def numbered {α : Type} (start : Int) : List α → List (Int × α)
  | [] => []
  | x :: xs => (start, x) :: numbered (start + 1) xs

def countOf {α : Type} (p : α → Bool) (xs : List α) : Int := (xs.filter p).length

def ofFacts (path : String) (lines : List String) (facts : List LineFacts) : ScriptInfo :=
  let rows := numbered 1 facts
  let loopLines := (rows.filter (·.2.loop)).map (·.1)
  { path := path
    name := (Path.parse path).name
    lines := lines
    labels := .ofList ((rows.map fun r => (r.1, r.2.labels)).filter (!·.2.isEmpty))
    loopLines := loopLines
    waits := .ofList (rows.filterMap fun r => r.2.wait?.map fun w => (r.1, w))
    events := countOf (·.event?.isSome) facts
    functions := countOf (·.function?.isSome) facts
    commands := countOf (·.command?.isSome) facts
    loops := loopLines.length
    variableAccesses := facts.foldl (fun total f => total + (f.variableAccesses : Int)) 0 }

/-- The facts of a script from its lines. -/
def ofLines (path : String) (lines : List String) : Except Fault ScriptInfo :=
  (lines.mapM LineFacts.ofLine).map (ofFacts path lines)

def lineCount (s : ScriptInfo) : Nat := s.lines.length

/-- The text of a line, empty outside the script. -/
def lineContent (s : ScriptInfo) (number : Int) : String :=
  if 0 < number then (s.lines[(number - 1).toNat]?).getD "" else ""

/-- All labels of a line in one text. -/
def labelAt (s : ScriptInfo) (number : Int) : Option String :=
  match s.labels.get? number with
  | none | some [] => none
  | some found => some (" | ".intercalate (found.map Label.text))

end ScriptInfo

abbrev Scripts := Catalog String ScriptInfo

end ScriptProfiling
