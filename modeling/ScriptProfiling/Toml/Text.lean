import ScriptProfiling.Json.Reading
import ScriptProfiling.Toml.Fault

/-!
# Texts and blanks in configuration files

Texts stand between double quotes, with escapes, or between single quotes, without.
Three marks instead of one begin a text of several lines.
-/
namespace ScriptProfiling
namespace Toml

def isSpace (c : Char) : Bool := c == ' ' || c == '\t'

def isSpaceOrNewline (c : Char) : Bool := isSpace c || c == '\n'

def skipSpace (cs : List Char) : List Char := cs.dropWhile isSpace

def isControl (c : Char) : Bool := c.toNat < 32 || c.toNat == 127

/-- Characters that may stand in no text of one line and in no comment. -/
def isIllegal (c : Char) : Bool := isControl c && c != '\t'

def isIllegalInLines (c : Char) : Bool := isIllegal c && c != '\n'

/-- The text before a mark, and the rest from the mark on. -/
def beforeMark (mark : List Char) : List Char → Option (List Char × List Char)
  | [] => none
  | c :: cs =>
    if mark.isPrefixOf (c :: cs) then some ([], c :: cs)
    else (beforeMark mark cs).map fun r => (c :: r.1, r.2)

/-- Refuses the first bad character of a stretch that has the given rest. -/
def checkStretch (bad : Char → Bool) (cs : List Char) (length : Nat) : Except TomlFault Unit :=
  let good := (cs.take length).takeWhile (!bad ·)
  match (cs.take length).drop good.length with
  | [] => .ok ()
  | c :: _ => failAt (.foundInvalid c) (cs.drop good.length)

/-- Passes over a comment up to the end of its line. -/
def skipComment (cs : List Char) : Except TomlFault (List Char) :=
  match cs with
  | '#' :: more => do
    let body := more.takeWhile (· != '\n')
    checkStretch isIllegal more body.length
    return more.drop body.length
  | _ => .ok cs

/-- Passes over blanks, line ends and comments inside a list; the fuel bounds their number. -/
def skipInList : Nat → List Char → Except TomlFault (List Char)
  | 0, cs => .ok cs
  | fuel + 1, cs => do
    let rest ← skipComment (cs.dropWhile isSpaceOrNewline)
    if rest.length = cs.length then return cs else skipInList fuel rest

/-- A text without escapes up to its closing mark. -/
def readLiteral (bad : Char → Bool) (mark : String) (cs : List Char) :
    Except TomlFault (List Char × List Char) :=
  match beforeMark mark.toList cs with
  | none => failAt (.expectedMark mark) []
  | some (body, rest) => do
    checkStretch bad cs body.length
    return (body, rest.drop mark.length)

def readHex (digits : Nat) (cs : List Char) : Except TomlFault (Char × List Char) :=
  let hex := cs.take digits
  match if hex.length = digits then Json.hexNumber? hex else none with
  | none => failAt .badHex cs
  | some n =>
    let rest := cs.drop digits
    if n < 0xd800 ∨ (0xe000 ≤ n ∧ n < 0x110000) then .ok (Char.ofNat n, rest)
    else failAt .noScalar rest

def simpleEscape? (c : Char) : Option Char :=
  if c = 'b' then some (Char.ofNat 8)
  else if c = 't' then some '\t'
  else if c = 'n' then some '\n'
  else if c = 'f' then some (Char.ofNat 12)
  else if c = 'r' then some '\r'
  else if c = '"' ∨ c = '\\' then some c
  else none

/-- Behind a backslash that ends a line, the line end and all blanks after it vanish. -/
def joinLine (cs : List Char) : Except TomlFault (List Char) :=
  match skipSpace cs with
  | [] => .ok []
  | '\n' :: rest => .ok (rest.dropWhile isSpaceOrNewline)
  | rest => failAt .badEscape rest

/-- What an escape after its backslash stands for. -/
def readEscape (lines : Bool) (cs : List Char) : Except TomlFault (List Char × List Char) :=
  match cs with
  | [] => failAt .badEscape []
  | c :: rest =>
    if lines && isSpaceOrNewline c then (joinLine cs).map ([], ·)
    else if c = 'u' then (readHex 4 rest).map fun r => ([r.1], r.2)
    else if c = 'U' then (readHex 8 rest).map fun r => ([r.1], r.2)
    else
      match simpleEscape? c with
      | some c => .ok ([c], rest)
      | none => failAt .badEscape rest

/-- A text with escapes up to its closing mark, after what has been read of it, which
is given backward. The fuel bounds its length. -/
def readBasic : Nat → Bool → List Char → List Char →
    Except TomlFault (List Char × List Char)
  | 0, _, _, cs => failAt .unterminated cs
  | fuel + 1, lines, read, cs =>
    match cs with
    | [] => failAt .unterminated []
    | '"' :: rest =>
      if !lines then .ok (read.reverse, rest)
      else
        match rest with
        | '"' :: '"' :: rest => .ok (read.reverse, rest)
        | _ => readBasic fuel lines ('"' :: read) rest
    | '\\' :: rest =>
      match readEscape lines rest with
      | .error e => .error e
      | .ok (text, rest) => readBasic fuel lines (text.reverse ++ read) rest
    | c :: rest =>
      if (if lines then isIllegalInLines c else isIllegal c) then failAt (.illegal c) cs
      else readBasic fuel lines (c :: read) rest

/-- Up to two marks more belong to the text in front of its three closing ones. -/
def extraMarks (mark : Char) (text : List Char) (cs : List Char) : List Char × List Char :=
  match cs with
  | a :: b :: rest =>
    if a = mark ∧ b = mark then (text ++ [mark, mark], rest)
    else if a = mark then (text ++ [mark], b :: rest)
    else (text, cs)
  | [a] => if a = mark then (text ++ [mark], []) else (text, cs)
  | [] => (text, [])

/-- A line end directly behind the opening marks does not count. -/
def dropFirstNewline (cs : List Char) : List Char :=
  match cs with
  | '\n' :: rest => rest
  | _ => cs

/-- A text that begins with a double quote. -/
def readDouble (cs : List Char) : Except TomlFault (List Char × List Char) :=
  match cs with
  | '"' :: '"' :: '"' :: rest => do
    let (text, rest) ← readBasic (rest.length + 1) true [] (dropFirstNewline rest)
    return extraMarks '"' text rest
  | _ => readBasic (cs.length + 1) false [] (cs.drop 1)

/-- A text that begins with a single quote. -/
def readSingle (cs : List Char) : Except TomlFault (List Char × List Char) :=
  match cs with
  | '\x27' :: '\x27' :: '\x27' :: rest => do
    let (text, rest) ← readLiteral isIllegalInLines "'''" (dropFirstNewline rest)
    return extraMarks '\x27' text rest
  | _ => readLiteral isIllegal "'" (cs.drop 1)

end Toml
end ScriptProfiling
