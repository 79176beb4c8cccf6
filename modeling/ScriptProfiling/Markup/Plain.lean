import ScriptProfiling.Markup.Handler
import ScriptProfiling.Markup.Piece
import ScriptProfiling.Markup.Style

/-!
# Plain text of markup

Tags vanish, escaped tags lose their escape, and what else is written stays. Each
closing tag has to close a style that is open, and a handler that is closed has to have
proper parameters.
-/
namespace ScriptProfiling

/-- Control characters that a terminal would obey. -/
def isTerminalControl (c : Char) : Bool := [7, 8, 11, 12, 13].contains c.toNat

/-- Plain characters backward, as they are shown: a backslash directly before an
opening bracket is dropped. -/
def pushPlain (out : List Char) (c : Char) : List Char :=
  if c = '[' then
    match out with
    | '\\' :: rest => c :: rest
    | _ => c :: out
  else c :: out

/-- The part of a tag before its first equals sign. -/
def tagName (body : List Char) : List Char := body.takeWhile (· != '=')

/-- The part of a tag behind its first equals sign. -/
def tagParameters (body : List Char) : List Char := body.drop ((tagName body).length + 1)

/-- A style or a handler that has been opened and not closed. -/
structure OpenTag where
  name : String
  parameters : List Char

/-- Only handlers with parameters can be wrong. -/
def OpenTag.check (t : OpenTag) : Except Fault Unit :=
  if t.name.startsWith "@" && !t.parameters.isEmpty then
    (Handler.check t.parameters).mapError .markup
  else .ok ()

/-- The innermost open tag of a name, and the open tags without it. -/
def closeTag? (name : String) : List OpenTag → Option (OpenTag × List OpenTag)
  | [] => none
  | t :: rest =>
    if t.name = name then some (t, rest)
    else (closeTag? name rest).map fun found => (found.1, t :: found.2)

/-- What reading has come to: the position in the text, the characters of the current
plain run and all characters before it, both backward, and the open tags, the
innermost first. -/
structure Reader where
  position : Nat
  run : List Char
  shown : List Char
  tags : List OpenTag

namespace Reader

def start : Reader := ⟨0, [], [], []⟩

/-- Ends the plain run, behind which a tag follows. -/
def endRun (r : Reader) : Reader := { r with run := [], shown := r.run ++ r.shown }

/-- Shows characters as they are. -/
def put (r : Reader) (cs : List Char) : Reader := { r with shown := cs.reverse ++ r.shown }

/-- The tag that a closing tag closes, and the tags that stay open. -/
def closed (r : Reader) (place : Nat) (body : List Char) :
    Except Fault (OpenTag × List OpenTag) :=
  let name := strip ((tagName body).drop 1)
  if name.isEmpty then
    match r.tags with
    | [] => .error (.markup (.nothingOpen place))
    | t :: rest => .ok (t, rest)
  else do
    match closeTag? (← Style.normalName name) r.tags with
    | some found => return found
    | none => throw (.markup (.unmatched (String.ofList body) place))

def endTag (r : Reader) (place : Nat) (body : List Char) : Except Fault Reader := do
  let (t, rest) ← r.closed place body
  t.check
  return { r with tags := rest }

def beginTag (r : Reader) (body : List Char) : Except Fault Reader := do
  let name ← Style.normalName (tagName body)
  return { r with tags := ⟨name, tagParameters body⟩ :: r.tags }

/-- A tag behind a number of backslashes: each two of them show one, and one left over
shows the tag. -/
def tag (r : Reader) (escapes : Nat) (body : List Char) : Except Fault Reader := do
  let place := r.position + 2 * (escapes / 2)
  let r := r.endRun.put (List.replicate (escapes / 2) '\\')
  let done := { r with position := r.position + escapes + body.length + 2 }
  if escapes % 2 = 1 then return done.put ('[' :: body ++ [']'])
  else if body.head? = some '/' then done.endTag place body
  else done.beginTag body

def step (r : Reader) : Piece → Except Fault Reader
  | .char c => .ok { r with position := r.position + 1, run := pushPlain r.run c }
  | .tag escapes body => r.tag escapes body

end Reader

def stripChars (cs : List Char) : Except Fault (List Char) := do
  let r ← (pieces cs).foldlM Reader.step .start
  return r.endRun.shown.reverse.filter (!isTerminalControl ·)

/-- The plain text of some markup. Names of pictograms between colons stay as they are written:
the table of these names, by which the console library replaces them, is left out. -/
def stripMarkup (s : String) : Except Fault String := (stripChars s.toList).map String.ofList

end ScriptProfiling
