import ScriptProfiling.Files.Tree
import ScriptProfiling.Log
import ScriptProfiling.Text.Lowercase

/-!
# Finding scripts

All files below a folder whose suffix is the wanted one in any case, in the order of
their paths name by name.
-/
namespace ScriptProfiling

/-- The lines of a script file. Bytes that are no text are shown as replacement
characters. -/
def readScript (t : Tree) (cwd : Path) (path : String) : Except Fault (List String) :=
  match t.read cwd path with
  | .ok content => .ok ((scriptLines (decodeLenient content)).map String.ofList)
  | .error (.file .nulByte path) => .error (.file .nulByte path)
  | .error (.file cause _) => .error (.scriptRead path cause.message)
  | .error f => .error f

/-- Order of texts by code points, name by name. -/
def namesBefore (a b : List String) : Bool := decide (a < b) || a == b

def hasSuffix (suffix : List Char) (name : String) : Bool :=
  lowercase (nameSuffix name.toList) == suffix

def scriptFiles (t : Tree) (place : List String) (extension : String) :
    List (List String × List UInt8) :=
  let suffix := lowercase extension.toList
  let found := (t.filesBelow place).filter fun f => hasSuffix suffix (f.1.getLast?.getD "")
  found.mergeSort fun a b => namesBefore a.1 b.1

structure FoundScript where
  path : String
  lines : List String
  deriving DecidableEq, Repr

/-- A script as analysis takes it. -/
def FoundScript.item (s : FoundScript) : Value :=
  .tuple [.text s.path, .list (s.lines.map .text)]

def absoluteText (names : List String) : String := (Path.mk .single names).text

/-- The scripts below a folder; a folder that is missing has none. -/
def discoverScripts (t : Tree) (cwd : Path) (root extension : String) :
    Except Fault (Logged (List FoundScript)) := do
  if root.toList.contains (Char.ofNat 0) then throw (.file .nulByte root)
  let place := Path.resolve cwd (Path.parse root)
  if ← t.isFolder cwd place.text then
    let scripts := (scriptFiles t place.names extension).map fun f =>
      FoundScript.mk (absoluteText f.1) ((scriptLines (decodeLenient f.2)).map String.ofList)
    return ⟨scripts, [⟨.info, .loader, "Loading scripts from: " ++ place.text⟩]⟩
  else
    return ⟨[], [⟨.warning, .loader, "Scripts folder not found: " ++ place.text⟩]⟩

end ScriptProfiling
