import ScriptProfiling.Toml.Text

/-!
# Numbers and dates in configuration files

Each reader takes the longest text of its form from the head of the document, or
nothing.
-/
namespace ScriptProfiling
namespace Toml

/-- Digits of some kind with single underscores between them, and the rest. -/
def digitRun (isOne : Char → Bool) : List Char → List Char × List Char
  | '_' :: c :: cs =>
    if isOne c then
      let (digits, rest) := digitRun isOne cs
      (c :: digits, rest)
    else ([], '_' :: c :: cs)
  | c :: cs =>
    if isOne c then
      let (digits, rest) := digitRun isOne cs
      (c :: digits, rest)
    else ([], c :: cs)
  | [] => ([], [])

/-- A run that begins with a digit. -/
def firstRun (isOne : Char → Bool) (cs : List Char) : List Char × List Char :=
  match cs with
  | c :: _ => if isOne c then digitRun isOne cs else ([], cs)
  | [] => ([], [])

def isHexDigit (c : Char) : Bool := (Json.hexValue? c).isSome
def isBinaryDigit (c : Char) : Bool := c == '0' || c == '1'
def isOctalDigit (c : Char) : Bool := '0' ≤ c && c ≤ '7'

def valueInBase (base : Nat) (digits : List Char) : Nat :=
  digits.foldl (fun n c => base * n + (Json.hexValue? c).getD 0) 0

/-- A natural number in base 16, 2 or 8. -/
def readBased? (cs : List Char) : Option (Nat × List Char) :=
  let read (base : Nat) (isOne : Char → Bool) (rest : List Char) : Option (Nat × List Char) :=
    let (digits, rest) := firstRun isOne rest
    if digits.isEmpty then none else some (valueInBase base digits, rest)
  match cs with
  | '0' :: 'x' :: rest => read 16 isHexDigit rest
  | '0' :: 'b' :: rest => read 2 isBinaryDigit rest
  | '0' :: 'o' :: rest => read 8 isOctalDigit rest
  | _ => none

/-- The digits before the point: a zero stands alone. -/
def wholePart (cs : List Char) : List Char × List Char :=
  match cs with
  | '0' :: rest => (['0'], rest)
  | _ => firstRun isAsciiDigit cs

def fractionPart (cs : List Char) : List Char × List Char :=
  match cs with
  | '.' :: rest =>
    let (digits, more) := firstRun isAsciiDigit rest
    if digits.isEmpty then ([], cs) else (digits, more)
  | _ => ([], cs)

def exponentPart (cs : List Char) : Option Int × List Char :=
  match cs with
  | c :: rest =>
    if c = 'e' ∨ c = 'E' then
      let (negative, body) := takeSign rest
      let (digits, more) := firstRun isAsciiDigit body
      if digits.isEmpty then (none, cs)
      else (some (if negative then -(digitsValue digits : Int) else digitsValue digits), more)
    else (none, cs)
  | [] => (none, cs)

def readNumber? (cs : List Char) : Except TomlFault (Option (Value × List Char)) :=
  match readBased? cs with
  | some (n, rest) => .ok (some (.int n, rest))
  | none =>
    let (negative, body) := takeSign cs
    let (digits, rest) := wholePart body
    if digits.isEmpty then .ok none
    else
      let (fraction, rest) := fractionPart rest
      let (power?, rest) := exponentPart rest
      if fraction.isEmpty && power?.isNone then
        if digitLimit < digits.length then .error (.numeralTooLong digits.length)
        else
          let n : Int := digitsValue digits
          .ok (some (.int (if negative then -n else n), rest))
      else
        .ok (some (.float (ofDecimal negative (digitsValue (digits ++ fraction))
          (power?.getD 0 - fraction.length)), rest))

def specialFloats : List (String × Binary64) :=
  [("inf", .infinite false), ("nan", .nan), ("-inf", .infinite true), ("+inf", .infinite false),
   ("-nan", .nan), ("+nan", .nan)]

def readSpecial? (cs : List Char) : Option (Value × List Char) :=
  (specialFloats.find? fun s => s.1.toList.isPrefixOf cs).map fun s =>
    (.float s.2, cs.drop s.1.length)

/-- Exactly so many digits, with a value between two bounds. -/
def fixedDigits? (count low high : Nat) (cs : List Char) : Option (Nat × List Char) :=
  let digits := cs.take count
  if digits.length = count ∧ digits.all isAsciiDigit then
    let n := digitsValue digits
    if low ≤ n ∧ n ≤ high then some (n, cs.drop count) else none
  else none

/-- A mark and then digits as above. -/
def marked? (mark : Char) (count low high : Nat) (cs : List Char) : Option (Nat × List Char) :=
  match cs with
  | c :: rest => if c = mark then fixedDigits? count low high rest else none
  | [] => none

/-- Digits after the point beyond the sixth are dropped. -/
def readMicros (cs : List Char) : Nat × List Char :=
  match cs with
  | '.' :: rest =>
    let digits := rest.takeWhile isAsciiDigit
    if digits.isEmpty then (0, cs)
    else
      let six := digits.take 6
      (raiseTen (digitsValue six) (6 - six.length), rest.drop digits.length)
  | _ => (0, cs)

def readTime? (cs : List Char) : Option (Time × List Char) := do
  let (hour, rest) ← fixedDigits? 2 0 23 cs
  let (minute, rest) ← marked? ':' 2 0 59 rest
  let (second, rest) ← marked? ':' 2 0 59 rest
  let (micro, rest) := readMicros rest
  return (⟨hour, minute, second, micro⟩, rest)

def readDate? (cs : List Char) : Option (Date × List Char) := do
  let (year, rest) ← fixedDigits? 4 0 9999 cs
  let (month, rest) ← marked? '-' 2 1 12 rest
  let (day, rest) ← marked? '-' 2 1 31 rest
  return (⟨year, month, day⟩, rest)

/-- The distance to universal time, if one is given. -/
def readOffset (cs : List Char) : Option Int × List Char :=
  match cs with
  | c :: rest =>
    if c = 'Z' ∨ c = 'z' then (some 0, rest)
    else if c = '+' ∨ c = '-' then
      let offset? := do
        let (hour, rest) ← fixedDigits? 2 0 23 rest
        let (minute, rest) ← marked? ':' 2 0 59 rest
        return (60 * hour + minute, rest)
      match offset? with
      | some (minutes, rest) => (some (if c = '-' then -(minutes : Int) else minutes), rest)
      | none => (none, cs)
    else (none, cs)
  | [] => (none, cs)

def isLeap (year : Nat) : Bool := year % 4 == 0 && (year % 100 != 0 || year % 400 == 0)

def daysIn (year month : Nat) : Nat :=
  if month = 2 then (if isLeap year then 29 else 28)
  else if month = 4 ∨ month = 6 ∨ month = 9 ∨ month = 11 then 30
  else 31

def isDate (d : Date) : Bool := 1 ≤ d.year && d.day ≤ daysIn d.year d.month

/-- A date, with a time if one follows; it has to be a day of the calendar. -/
def readMoment? (cs : List Char) : Except TomlFault (Option (Value × List Char)) :=
  match readDate? cs with
  | none => .ok none
  | some (date, rest) =>
    let time? := match rest with
      | c :: more => if c = 'T' ∨ c = 't' ∨ c = ' ' then readTime? more else none
      | [] => none
    if !isDate date then failAt .invalidDate cs
    else
      match time? with
      | none => .ok (some (.date date, rest))
      | some (time, rest) =>
        let (offset, rest) := readOffset rest
        .ok (some (.moment date time offset, rest))

end Toml
end ScriptProfiling
