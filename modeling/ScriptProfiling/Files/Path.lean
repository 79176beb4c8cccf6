import ScriptProfiling.Text.Lines

/-!
# Paths

A path is an optional root and a list of names, none of them empty or a single dot.
Separators that are repeated or stand at the end make no difference.
-/
namespace ScriptProfiling

/-- One leading separator is the root, and so are three or more; exactly two are a
root of their own. -/
inductive PathRoot where
  | relative
  | single
  | double
  deriving DecidableEq, Repr

structure Path where
  root : PathRoot
  names : List String
  deriving DecidableEq, Repr

namespace Path

def rootOf (cs : List Char) : PathRoot :=
  match (cs.takeWhile (· == '/')).length with
  | 0 => .relative
  | 2 => .double
  | _ => .single

/-- The names between separators. -/
def namesOf (cs : List Char) : List (List Char) :=
  (splitAt '/' cs).filter fun name => !name.isEmpty && name != ['.']

def parse (s : String) : Path where
  root := rootOf s.toList
  names := (namesOf s.toList).map String.ofList

def rootText : PathRoot → String
  | .relative => ""
  | .single => "/"
  | .double => "//"

/-- The path in normal form; the relative path without names is a dot. -/
def text (p : Path) : String :=
  if p.root = .relative ∧ p.names = [] then "." else rootText p.root ++ "/".intercalate p.names

def name (p : Path) : String := p.names.getLast?.getD ""

def isAbsolute (p : Path) : Bool := p.root != .relative

/-- A relative path is looked up in a folder, an absolute one stands for itself. -/
def within (folder p : Path) : Path :=
  if p.isAbsolute then p else ⟨folder.root, folder.names ++ p.names⟩

end Path

/-- The last dot of a name and what follows it. The dot counts only between two other
characters of the name. -/
def nameSuffix (name : List Char) : List Char :=
  let after := name.reverse.takeWhile (· != '.')
  let before := name.length - after.length
  if after.isEmpty || before ≤ 1 then [] else '.' :: after.reverse

/-- The last name of a path, for which both kinds of slash separate. -/
def shortFileName (path : List Char) : List Char :=
  if path.isEmpty then "unknown".toList
  else ((Path.namesOf (path.map fun c => if c = '\\' then '/' else c)).getLast?).getD []

end ScriptProfiling
