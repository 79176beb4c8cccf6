import ScriptProfiling.Text.Quoted

/-!
# Values

What hosts, configuration files and traces hand over before it is known to have the
wanted form: scalars, sequences, tables and calendar values.
-/
namespace ScriptProfiling

structure Date where
  year : Nat
  month : Nat
  day : Nat
  deriving DecidableEq, Repr

structure Time where
  hour : Nat
  minute : Nat
  second : Nat
  micro : Nat
  deriving DecidableEq, Repr

inductive Value where
  | null
  | bool (b : Bool)
  | int (n : Int)
  | float (x : Binary64)
  | text (s : String)
  | bytes (bs : List UInt8)
  /-- A path in normal form. -/
  | path (s : String)
  | list (xs : List Value)
  | tuple (xs : List Value)
  | table (fields : List (String × Value))
  | date (d : Date)
  | time (t : Time)
  /-- A date and time, with the distance to universal time in minutes if it is known. -/
  | moment (d : Date) (t : Time) (offset : Option Int)

instance : Inhabited Value := ⟨.null⟩

namespace Date

def text (d : Date) : String :=
  String.ofList (paddedNumeral 4 d.year ++ '-' :: paddedNumeral 2 d.month ++
    '-' :: paddedNumeral 2 d.day)

end Date

namespace Time

def text (t : Time) : String :=
  String.ofList (paddedNumeral 2 t.hour ++ ':' :: paddedNumeral 2 t.minute ++
    ':' :: paddedNumeral 2 t.second ++
    (if t.micro = 0 then [] else '.' :: paddedNumeral 6 t.micro))

/-- The parts of a constructor call; zero seconds and fractions at the end are left out. -/
def parts (t : Time) : List Nat :=
  [t.hour, t.minute] ++
    (if t.micro ≠ 0 then [t.second, t.micro] else if t.second ≠ 0 then [t.second] else [])

end Time

/-- The distance to universal time as hours and minutes. -/
def offsetText (minutes : Int) : String :=
  String.ofList ((if minutes < 0 then '-' else '+') :: paddedNumeral 2 (minutes.natAbs / 60) ++
    ':' :: paddedNumeral 2 (minutes.natAbs % 60))

def callText (name : String) (parts : List String) : String :=
  name ++ "(" ++ ", ".intercalate parts ++ ")"

def numbersText (ns : List Nat) : List String := ns.map fun n => String.ofList (numeral n)

/-- The zone in a constructor call: universal time has a name of its own. -/
def zoneText (minutes : Int) : String :=
  let seconds := 60 * minutes
  if seconds = 0 then "datetime.timezone.utc"
  else "datetime.timezone(datetime.timedelta(" ++
    (if seconds < 0 then "days=-1, seconds=" ++ wholeText (seconds + 86400)
    else "seconds=" ++ wholeText seconds) ++ "))"

namespace Value

/-- The name of a value's kind, as error texts give it. -/
def typeName : Value → String
  | .null => "NoneType"
  | .bool _ => "bool"
  | .int _ => "int"
  | .float _ => "float"
  | .text _ => "str"
  | .bytes _ => "bytes"
  | .path _ => "PurePosixPath"
  | .list _ => "list"
  | .tuple _ => "tuple"
  | .table _ => "dict"
  | .date _ => "datetime.date"
  | .time _ => "datetime.time"
  | .moment .. => "datetime.datetime"

/-- The name of a value's kind without the place that it comes from. -/
def kindName : Value → String
  | .date _ => "date"
  | .time _ => "time"
  | .moment .. => "datetime"
  | value => value.typeName

def truthy : Value → Bool
  | .null => false
  | .bool b => b
  | .int n => n != 0
  | .float x => !x.isZero
  | .text s => s != ""
  | .bytes bs => !bs.isEmpty
  | .path _ => true
  | .list xs => !xs.isEmpty
  | .tuple xs => !xs.isEmpty
  | .table fields => !fields.isEmpty
  | .date _ => true
  | .time _ => true
  | .moment .. => true

def boolText (b : Bool) : String := if b then "True" else "False"

mutual

/-- A value as one would write it in a program, however long its numbers and however deep
inside each other its parts are. -/
def literal : Value → String
  | .null => "None"
  | .bool b => boolText b
  | .int n => wholeText n
  | .float x => x.text
  | .text s => quoted s
  | .bytes bs => quotedBytes bs
  | .path s => callText "PurePosixPath" [quoted s]
  | .list xs => "[" ++ ", ".intercalate (literals xs) ++ "]"
  | .tuple [x] => "(" ++ literal x ++ ",)"
  | .tuple xs => "(" ++ ", ".intercalate (literals xs) ++ ")"
  | .table fields => "\x7b" ++ ", ".intercalate (fieldLiterals fields) ++ "\x7d"
  | .date d => callText "datetime.date" (numbersText [d.year, d.month, d.day])
  | .time t => callText "datetime.time" (numbersText t.parts)
  | .moment d t offset => callText "datetime.datetime"
      (numbersText ([d.year, d.month, d.day] ++ t.parts) ++
        (offset.map fun minutes => "tzinfo=" ++ zoneText minutes).toList)

def literals : List Value → List String
  | [] => []
  | x :: xs => literal x :: literals xs

def fieldLiterals : List (String × Value) → List String
  | [] => []
  | (key, x) :: fields => (quoted key ++ ": " ++ literal x) :: fieldLiterals fields

end

/-- A value inside a message: text stands as it is. -/
def display : Value → String
  | .text s => s
  | .path s => s
  | .date d => d.text
  | .time t => t.text
  | .moment d t offset => d.text ++ " " ++ t.text ++ (offset.map offsetText).getD ""
  | value => literal value

end Value
end ScriptProfiling
