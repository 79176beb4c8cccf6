import ScriptProfiling.CommandLine.Run

/-!
# Values of options

Each check takes a value as it is written and ends the run if it cannot be used.
-/
namespace ScriptProfiling
namespace CommandLine

/-- Whether a path as it is written can only lead to a folder. -/
def wantsFolder (written : String) : Bool :=
  let last := (splitAt '/' written.toList).getLast?
  last == some [] || last == some ['.']

/-- What stands at a path as it is written; nothing stands at an empty one. -/
def nodeAt (w : Surroundings) (written : String) : Run (Option Node) :=
  if written.isEmpty then Run.done none
  else
    match w.files.find w.cwd written with
    | .ok (_, .folder) => Run.done (some .folder)
    | .ok (_, node) => Run.done (if wantsFolder written then none else some node)
    | .error .nulByte => Run.ending (.fault (.file .nulByte written))
    | .error _ => Run.done none

/-- The path of a folder that has to be there. -/
def folderPath (w : Surroundings) (field written : String) : Run String := do
  match ← nodeAt w written with
  | some .folder => return (Path.parse written).text
  | _ => Run.ending (.usage (.unusable field written))

/-- The path of a file that has to be there. -/
def filePath (w : Surroundings) (field written : String) : Run String := do
  match ← nodeAt w written with
  | some (.file _) => return (Path.parse written).text
  | _ => Run.ending (.usage (.unusable field written))

/-- The path of a file that may be missing but is no folder. -/
def outputPath (w : Surroundings) (field written : String) : Run String := do
  match ← nodeAt w written with
  | some .folder => Run.ending (.usage (.unusable field written))
  | _ => return (Path.parse written).text

def optionally {α : Type} (check : String → Run α) : Option String → Run (Option α)
  | none => Run.done none
  | some written => do return some (← check written)

inductive Layout where
  | rich
  | plain
  | json
  deriving DecidableEq, Repr

def Layout.name : Layout → String
  | .rich => "rich"
  | .plain => "plain"
  | .json => "json"

/-- Letters without regard to case. The long form of a small letter counts as that letter. -/
def foldLetter (c : Char) : Char := if c.toNat = 0x17f then 's' else c.toLower

def layoutOf (allowed : List Layout) (field written : String) : Run Layout :=
  let folded := String.ofList (written.toList.map foldLetter)
  match allowed.find? (·.name == folded) with
  | some layout => Run.done layout
  | none => Run.ending (.usage (.unusable field written))

def numberOf (field written : String) : Run Binary64 :=
  match parseFloat written with
  | .ok x => Run.done x
  | .error _ => Run.ending (.usage (.unusable field written))

/-- The one argument that is no option. -/
def onlyArgument (field : String) : List String → Run String
  | [] => Run.ending (.usage (.missing field))
  | [written] => Run.done written
  | _ :: extra :: _ => Run.ending (.usage (.extra extra))

def required (field : String) : Option String → Run String
  | some written => Run.done written
  | none => Run.ending (.usage (.missing field))

end CommandLine
end ScriptProfiling
