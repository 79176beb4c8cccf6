import ScriptProfiling.Number.Reading
import ScriptProfiling.Text.Word

/-!
# What a script line declares

Five detectors look at each line for itself and do not exclude one another: events,
functions and commands open a line, loops and waits may stand anywhere in it. Variable
accesses are counted. Keywords match in any case, under the case rules of all scripts.
-/
namespace ScriptProfiling
namespace Line

/-- Whether a character is a given small letter in some case. Three letters have further
forms that case rules identify with them. -/
def isLetter (letter c : Char) : Bool :=
  c.toLower == letter ||
    (letter == 'i' && (c.toNat == 0x130 || c.toNat == 0x131)) ||
    (letter == 's' && c.toNat == 0x17f) ||
    (letter == 'k' && c.toNat == 0x212a)

/-- What follows a keyword at the head of a text. -/
def afterWord? : List Char → List Char → Option (List Char)
  | [], cs => some cs
  | _ :: _, [] => none
  | letter :: word, c :: cs => if isLetter letter c then afterWord? word cs else none

/-- What follows a keyword and at least one blank. -/
def afterKeyword? (word : String) (cs : List Char) : Option (List Char) :=
  match afterWord? word.toList cs with
  | some (c :: rest) => if isBlank c then some (dropBlanks rest) else none
  | _ => none

/-- The longest non-empty text before a colon that ends before the next line feed. -/
def beforeLastColon (cs : List Char) : Option (List Char) :=
  let reach := cs.takeWhile (· != '\n')
  let text := (reach.reverse.dropWhile (· != ':')).drop 1
  if text.isEmpty then none else some text.reverse

/-- The trigger after as many of the first `blanks` characters as leave one. -/
def triggerAfter : Nat → List Char → Option (List Char)
  | 0, _ => none
  | blanks + 1, cs =>
    match beforeLastColon (cs.drop (blanks + 1)) with
    | some text => some text
    | none => triggerAfter blanks cs

/-- The trigger of an event line, blanks included. -/
def rawTrigger? (cs : List Char) : Option (List Char) :=
  match afterWord? "on".toList (dropBlanks cs) with
  | some rest => triggerAfter (rest.takeWhile isBlank).length rest
  | none => none

def event? (cs : List Char) : Option (List Char) := (rawTrigger? cs).map strip

def function? (cs : List Char) : Option (List Char) :=
  match afterKeyword? "function" (dropBlanks cs) with
  | some rest =>
    let name := rest.takeWhile isWord
    if name.isEmpty then none
    else if (dropBlanks (rest.drop name.length)).head? = some '(' then some name
    else none
  | none => none

def isCommandChar (c : Char) : Bool := isWord c || c == '-'

def command? (cs : List Char) : Option (List Char) :=
  match afterKeyword? "command" (dropBlanks cs) with
  | some rest =>
    let rest := if rest.head? = some '/' then rest.drop 1 else rest
    let name := rest.takeWhile isCommandChar
    if name.isEmpty then none else some name
  | none => none

/-- Whether a word starts a text at which `before` has ended. -/
def startsWord (before : Option Char) : Bool := !(before.map isWord).getD false

def loopsAfter (before : Option Char) : List Char → Bool
  | [] => false
  | c :: cs =>
    (startsWord before && (afterKeyword? "loop" (c :: cs)).isSome) || loopsAfter (some c) cs

def hasLoop (cs : List Char) : Bool := loopsAfter none cs

/-- A wait as a line writes it. -/
structure RawWait where
  digits : List Char
  unit : List Char
  deriving DecidableEq, Repr

def waitUnits : List String := ["tick", "second", "minute"]

/-- A unit of time at the head of a text, with its plural ending if it has one. No word
character may follow it. -/
def unitAt? (cs : List Char) : Option (List Char) :=
  waitUnits.findSome? fun name =>
    match afterWord? name.toList cs with
    | none => none
    | some rest =>
      let rest := match rest with
        | c :: more => if isLetter 's' c then more else rest
        | [] => rest
      if startsWord rest.head? then some (cs.take (cs.length - rest.length)) else none

/-- A wait statement that starts a text. -/
def waitAt? (cs : List Char) : Option RawWait :=
  match afterKeyword? "wait" cs with
  | none => none
  | some rest =>
    let digits := rest.takeWhile isDigit
    if digits.isEmpty then none
    else (unitAt? (dropBlanks (rest.drop digits.length))).map fun unit => ⟨digits, unit⟩

def waitAfter? (before : Option Char) : List Char → Option RawWait
  | [] => none
  | c :: cs =>
    match if startsWord before then waitAt? (c :: cs) else none with
    | some wait => some wait
    | none => waitAfter? (some c) cs

/-- The leftmost wait statement. -/
def wait? (cs : List Char) : Option RawWait := waitAfter? none cs

/-- Where a reader of variables stands: outside, behind the opening brace, or inside. -/
inductive Brace where
  | outside
  | opened
  | inside
  deriving DecidableEq, Repr

/-- Counts the texts between an opening brace and the next closing one that are not empty. -/
def countVariables (state : Brace) (count : Nat) : List Char → Nat
  | [] => count
  | c :: cs =>
    match state with
    | .outside => countVariables (if c = '\x7b' then .opened else .outside) count cs
    | .opened => countVariables (if c = '\x7d' then .outside else .inside) count cs
    | .inside =>
      if c = '\x7d' then countVariables .outside (count + 1) cs
      else countVariables .inside count cs

def variableAccesses (cs : List Char) : Nat := countVariables .outside 0 cs

end Line
end ScriptProfiling
