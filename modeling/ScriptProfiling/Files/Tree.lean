import ScriptProfiling.Fault
import ScriptProfiling.Files.Path

/-!
# File trees

A file tree is given by its nodes under their absolute names. Every folder on the way
to a node is there too. Looking a path up walks from folder to folder as a file system
does, so a path through a file fails even if its next name goes back up.
-/
namespace ScriptProfiling

inductive Node where
  | file (content : List UInt8)
  | folder
  deriving DecidableEq

structure Tree where
  nodes : List (List String × Node)

namespace Tree

def empty : Tree := ⟨[]⟩

def node? (t : Tree) (names : List String) : Option Node :=
  match t.nodes.find? (·.1 == names) with
  | some found => some found.2
  | none =>
    if names.isEmpty || t.nodes.any fun n => names.isPrefixOf n.1 then some .folder else none

/-- The longest name and the longest path in bytes. -/
def nameLimit : Nat := 255
def pathLimit : Nat := 4096

/-- Where the names lead from a folder, and what stands there. -/
def walk (t : Tree) (place : List String) : List String → Except FileCause (List String × Node)
  | [] =>
    match t.node? place with
    | some node => .ok (place, node)
    | none => .error .missing
  | name :: names =>
    match t.node? place with
    | none => .error .missing
    | some (.file _) => .error .notFolder
    | some .folder =>
      if nameLimit < name.utf8ByteSize then .error .nameTooLong
      else if name = ".." then walk t place.dropLast names
      else walk t (place ++ [name]) names

/-- What a path leads to from the working folder. -/
def find (t : Tree) (cwd : Path) (path : String) : Except FileCause (List String × Node) :=
  if path.toList.contains (Char.ofNat 0) then .error .nulByte
  else if pathLimit ≤ path.utf8ByteSize then .error .nameTooLong
  else t.walk [] (cwd.within (Path.parse path)).names

def read (t : Tree) (cwd : Path) (path : String) : Except Fault (List UInt8) :=
  match t.find cwd path with
  | .ok (_, .file content) => .ok content
  | .ok (_, .folder) => .error (.file .isFolder path)
  | .error cause => .error (.file cause path)

/-- Whether anything stands at a path. A name that is too long cannot be asked for. -/
def node (t : Tree) (cwd : Path) (path : String) : Except Fault (Option Node) :=
  match t.find cwd path with
  | .ok (_, node) => .ok (some node)
  | .error .nameTooLong => .error (.file .nameTooLong path)
  | .error _ => .ok none

def isFolder (t : Tree) (cwd : Path) (path : String) : Except Fault Bool :=
  return (← t.node cwd path) = some .folder

def present (t : Tree) (cwd : Path) (path : String) : Except Fault Bool :=
  return (← t.node cwd path).isSome

/-- The files below a folder, with their names from the root. -/
def filesBelow (t : Tree) (place : List String) : List (List String × List UInt8) :=
  t.nodes.filterMap fun n =>
    match n.2 with
    | .file content => if place.isPrefixOf n.1 && n.1 != place then some (n.1, content) else none
    | .folder => none

/-- The tree with a node set, and not twice. -/
def set (t : Tree) (names : List String) (node : Node) : Tree :=
  ⟨t.nodes.filter (·.1 != names) ++ [(names, node)]⟩

end Tree

/-- The names that are left when every `..` has taken back the name before it. -/
def foldParents (names : List String) : List String :=
  names.foldl (fun done name => if name = ".." then done.dropLast else done ++ [name]) []

/-- A path from its root without going up. -/
def Path.absolute (cwd p : Path) : Path :=
  let whole := cwd.within p
  ⟨whole.root, foldParents whole.names⟩

/-- As above, with the one root that all folders have. -/
def Path.resolve (cwd p : Path) : Path := { Path.absolute cwd p with root := .single }

/-- Adds to the file at an absolute path, which is made if only its name is missing. -/
def Tree.append (t : Tree) (p : Path) (content : List UInt8) : Except Fault Tree :=
  match t.find ⟨.single, []⟩ p.text with
  | .ok (names, .file old) => .ok (t.set names (.file (old ++ content)))
  | .ok (_, .folder) => .error (.file .isFolder p.text)
  | .error .missing =>
    if t.node? p.names.dropLast = some .folder then .ok (t.set p.names (.file content))
    else .error (.file .missing p.text)
  | .error cause => .error (.file cause p.text)

end ScriptProfiling
