import ScriptProfiling.Catalog
import ScriptProfiling.Toml.Scalar

/-!
# Configuration documents

A document is a list of statements: a key with a value, the head of a table, or the
head of one more table in a list of tables. No statement may change what another one
has fixed.
-/
namespace ScriptProfiling
namespace Toml

abbrev Table := List (String × Value)

/-- The table that stands behind a value: itself, or the last of a list of tables. -/
def openTable? (intoLists : Bool) : Value → Option Table
  | .table fields => some fields
  | .list xs =>
    if intoLists then
      match xs.getLast? with
      | some (.table fields) => some fields
      | _ => none
    else none
  | _ => none

/-- The value with the table behind it replaced. -/
def closeTable (fields : Table) : Value → Value
  | .list xs => .list (xs.dropLast ++ [.table fields])
  | _ => .table fields

/-- Changes the table at a path and makes the tables on the way that are missing. There
is no result where the path meets a value that is no table, or the change has none. -/
def changeAt (intoLists : Bool) (change : Table → Option Table) : Key → Table → Option Table
  | [], fields => change fields
  | name :: names, fields => do
    let inner := (fields.lookup name).getD (.table [])
    let opened ← openTable? intoLists inner
    let changed ← changeAt intoLists change names opened
    return Catalog.fileIn name (closeTable changed inner) fields

/-- One table more at the end of the list under a name. -/
def appendTable (name : String) (fields : Table) : Option Table :=
  match fields.lookup name with
  | none => some (Catalog.fileIn name (.list [.table []]) fields)
  | some (.list xs) => some (Catalog.fileIn name (.list (xs ++ [.table []])) fields)
  | some _ => none

inductive Flag where
  /-- Nothing at or below the key may change. -/
  | frozen
  /-- The table of the key has been declared. -/
  | declared
  deriving DecidableEq, Repr

structure Mark where
  key : Key
  flag : Flag
  deriving DecidableEq, Repr

/-- Whether a key is marked. What is frozen is so with everything below it. -/
def isMarked (marks : List Mark) (key : Key) (flag : Flag) : Bool :=
  marks.any fun m => m.flag == flag &&
    (m.key == key || (m.flag == .frozen && m.key.isPrefixOf key))

/-- Whether a value fixes everything below its key. -/
def freezes : Value → Bool
  | .table _ | .list _ => true
  | _ => false

def isBareChar (c : Char) : Bool := c.isAlphanum || c == '-' || c == '_'

def startsKey (c : Char) : Bool := isBareChar c || c == '"' || c == '\x27'

def readKeyPart (cs : List Char) : Except TomlFault (String × List Char) :=
  match cs with
  | [] => failAt .invalidKeyStart []
  | c :: rest =>
    if isBareChar c then
      let name := cs.takeWhile isBareChar
      .ok (String.ofList name, cs.drop name.length)
    else if c = '\x27' then
      (readLiteral isIllegal "'" rest).map fun r => (String.ofList r.1, r.2)
    else if c = '"' then
      (readBasic (cs.length + 1) false [] rest).map fun r => (String.ofList r.1, r.2)
    else failAt .invalidKeyStart cs

/-- The parts of a key, which dots separate. The fuel bounds their number. -/
def readKey : Nat → List Char → Except TomlFault (Key × List Char)
  | 0, cs => failAt .invalidKeyStart cs
  | fuel + 1, cs => do
    let (part, rest) ← readKeyPart cs
    match skipSpace rest with
    | '.' :: rest =>
      let (parts, rest) ← readKey fuel (skipSpace rest)
      return (part :: parts, rest)
    | rest => return ([part], rest)

/-- A key and the equals sign behind it. -/
def readKeyEquals (cs : List Char) : Except TomlFault (Key × List Char) := do
  let (key, rest) ← readKey (cs.length + 1) cs
  match rest with
  | '=' :: rest => return (key, skipSpace rest)
  | _ => failAt .expectedEquals rest

/-- Files a value under a key of an inline table. -/
def putInline (marks : List Mark) (fields : Table) (key : Key) (x : Value) (rest : List Char) :
    Except TomlFault Table :=
  if isMarked marks key .frozen then failAt (.immutable key) rest
  else
    let name := key.getLastD ""
    let put (inner : Table) : Option Table := some (Catalog.fileIn name x inner)
    let taken (inner : Table) : Option Table :=
      if (inner.lookup name).isSome then none else some inner
    match changeAt false some key.dropLast fields with
    | none => failAt .overwrites rest
    | some fields =>
      match changeAt false taken key.dropLast fields with
      | none => failAt (.duplicateKey name) rest
      | some fields => .ok ((changeAt false put key.dropLast fields).getD fields)

/-- A value without parts that is no text. -/
def readScalar (cs : List Char) : Except TomlFault (Value × List Char) :=
  if "true".toList.isPrefixOf cs then .ok (.bool true, cs.drop 4)
  else if "false".toList.isPrefixOf cs then .ok (.bool false, cs.drop 5)
  else do
    match ← readMoment? cs with
    | some r => return r
    | none =>
      match readTime? cs with
      | some (time, rest) => return (.time time, rest)
      | none =>
        match ← readNumber? cs with
        | some r => return r
        | none =>
          match readSpecial? cs with
          | some r => return r
          | none => failAt .invalidValue cs

mutual

/-- A value; the fuel bounds nesting and the number of items. -/
def readValue : Nat → List Char → Except TomlFault (Value × List Char)
  | 0, cs => failAt .invalidValue cs
  | fuel + 1, cs =>
    match cs with
    | '"' :: _ => (readDouble cs).map fun r => (.text (String.ofList r.1), r.2)
    | '\x27' :: _ => (readSingle cs).map fun r => (.text (String.ofList r.1), r.2)
    | '[' :: rest => do
      let rest ← skipInList (rest.length + 1) rest
      match rest with
      | ']' :: rest => return (.list [], rest)
      | _ => readItems fuel [] rest
    | '\x7b' :: rest =>
      match skipSpace rest with
      | '\x7d' :: rest => .ok (.table [], rest)
      | rest => readInline fuel [] [] rest
    | _ => readScalar cs

/-- The items of a list up to its end, after those read before, which are given backward. -/
def readItems : Nat → List Value → List Char → Except TomlFault (Value × List Char)
  | 0, _, cs => failAt .unclosedArray cs
  | fuel + 1, read, cs => do
    let (x, rest) ← readValue fuel cs
    let rest ← skipInList (rest.length + 1) rest
    match rest with
    | ']' :: rest => return (.list (x :: read).reverse, rest)
    | ',' :: rest =>
      let rest ← skipInList (rest.length + 1) rest
      match rest with
      | ']' :: rest => return (.list (x :: read).reverse, rest)
      | _ => readItems fuel (x :: read) rest
    | _ => failAt .unclosedArray rest

/-- The fields of an inline table up to its end. -/
def readInline : Nat → List Mark → Table → List Char →
    Except TomlFault (Value × List Char)
  | 0, _, _, cs => failAt .unclosedTable cs
  | fuel + 1, marks, fields, cs => do
    let (key, rest) ← readKeyEquals cs
    let (x, rest) ← readValue fuel rest
    let fields ← putInline marks fields key x rest
    match skipSpace rest with
    | '\x7d' :: rest => return (.table fields, rest)
    | ',' :: rest =>
      readInline fuel (if freezes x then ⟨key, .frozen⟩ :: marks else marks) fields (skipSpace rest)
    | rest => failAt .unclosedTable rest

end

/-- What the statements so far have made. -/
structure State where
  fields : Table
  marks : List Mark
  /-- Keys that count as declared from the next head on. -/
  pending : List Key
  header : Key

namespace State

def start : State := ⟨[], [], [], []⟩

def mark (s : State) (key : Key) (flag : Flag) : State := { s with marks := ⟨key, flag⟩ :: s.marks }

def isMarked (s : State) (key : Key) (flag : Flag) : Bool := Toml.isMarked s.marks key flag

def settle (s : State) : State :=
  { s with marks := s.pending.map (⟨·, .declared⟩) ++ s.marks, pending := [] }

def change (s : State) (key : Key) (f : Table → Option Table) (rest : List Char) :
    Except TomlFault State :=
  match changeAt true f key s.fields with
  | some fields => .ok { s with fields := fields }
  | none => failAt .overwrites rest

/-- The head of a table. -/
def declare (s : State) (key : Key) (rest : List Char) : Except TomlFault State :=
  if s.isMarked key .declared || s.isMarked key .frozen then failAt (.declaredTwice key) rest
  else do return { ← (s.mark key .declared).change key some rest with header := key }

def release (s : State) (key : Key) : State :=
  { s with marks := s.marks.filter fun m => !key.isPrefixOf m.key }

/-- The head of one table more in a list. -/
def append (s : State) (key : Key) (rest : List Char) : Except TomlFault State :=
  if s.isMarked key .frozen then failAt (.immutable key) rest
  else do
    let s := (s.release key).mark key .declared
    return { ← s.change key.dropLast (appendTable (key.getLastD "")) rest with header := key }

/-- The keys on the way to a dotted key below the current head. -/
def waypoints (s : State) (key : Key) : List Key :=
  (List.range (key.length - 1)).map fun n => s.header ++ key.take (n + 1)

def putNew (name : String) (x : Value) (fields : Table) : Option Table :=
  if (fields.lookup name).isSome then none else some (Catalog.fileIn name x fields)

/-- A key and its value. -/
def put (s : State) (key : Key) (x : Value) (rest : List Char) : Except TomlFault State := do
  let way := s.waypoints key
  if let some key := way.find? (s.isMarked · .declared) then failAt (.redefined key) rest
  let parent := s.header ++ key.dropLast
  if s.isMarked parent .frozen then failAt (.immutable parent) rest
  let s := { s with pending := way ++ s.pending }
  let changed ← s.change parent (putNew (key.getLastD "") x) rest
  return if freezes x then changed.mark (s.header ++ key) .frozen else changed

end State

/-- The head of a table or of one more table in a list. -/
def readHead (s : State) (cs : List Char) : Except TomlFault (State × List Char) :=
  let s := s.settle
  match cs with
  | '[' :: '[' :: rest => do
    let (key, rest) ← readKey (rest.length + 1) (skipSpace rest)
    let s ← s.append key rest
    match rest with
    | ']' :: ']' :: rest => return (s, rest)
    | _ => failAt .expectedArrayEnd rest
  | _ => do
    let (key, rest) ← readKey (cs.length + 1) (skipSpace (cs.drop 1))
    let s ← s.declare key rest
    match rest with
    | ']' :: rest => return (s, rest)
    | _ => failAt .expectedTableEnd rest

/-- One statement; a line may have none. -/
def readStatement (s : State) (cs : List Char) : Except TomlFault (State × List Char) :=
  match cs with
  | [] => .ok (s, [])
  | c :: _ =>
    if startsKey c then do
      let (key, rest) ← readKeyEquals cs
      let (x, rest) ← readValue (2 * rest.length + 2) rest
      return (← s.put key x rest, skipSpace rest)
    else if c = '[' then do
      let (s, rest) ← readHead s cs
      return (s, skipSpace rest)
    else if c = '#' then .ok (s, cs)
    else failAt .invalidStatement cs

/-- All lines; the fuel bounds their number. -/
def readLines : Nat → State → List Char → Except TomlFault State
  | 0, s, _ => .ok s
  | fuel + 1, s, cs =>
    match skipSpace cs with
    | [] => .ok s
    | '\n' :: rest => readLines fuel s rest
    | line => do
      let (s, rest) ← readStatement s line
      match ← skipComment rest with
      | [] => return s
      | '\n' :: rest => readLines fuel s rest
      | rest => failAt .expectedNewline rest

/-- Two characters that end a line count as one. -/
def unifyNewlines : List Char → List Char
  | '\r' :: '\n' :: cs => '\n' :: unifyNewlines cs
  | c :: cs => c :: unifyNewlines cs
  | [] => []

/-- The table that a document describes. -/
def parse (document : List Char) : Except Fault Table :=
  let cs := unifyNewlines document
  match readLines (cs.length + 1) .start cs with
  | .ok s => .ok s.fields
  | .error f => .error (f.toFault cs)

end Toml
end ScriptProfiling
