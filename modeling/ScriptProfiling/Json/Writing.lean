import ScriptProfiling.Fault
import ScriptProfiling.Json.Basic

/-!
# Writing JSON

Two layouts in basic characters only: one line, and one item a line with an indent
of two blanks for each level. Characters beyond the basic ones are written as the
one or two units of their 16-bit form.
-/
namespace ScriptProfiling
namespace Json

def unitEscape (n : Nat) : List Char := '\\' :: 'u' :: hexDigits 4 n

def escapedChar (c : Char) : List Char :=
  if c = '"' ∨ c = '\\' then ['\\', c]
  else if c.toNat = 8 then ['\\', 'b']
  else if c.toNat = 9 then ['\\', 't']
  else if c.toNat = 10 then ['\\', 'n']
  else if c.toNat = 12 then ['\\', 'f']
  else if c.toNat = 13 then ['\\', 'r']
  else if 32 ≤ c.toNat ∧ c.toNat < 127 then [c]
  else if c.toNat < 0x10000 then unitEscape c.toNat
  else unitEscape (0xd800 + (c.toNat - 0x10000) / 0x400) ++
    unitEscape (0xdc00 + (c.toNat - 0x10000) % 0x400)

def textChars (s : String) : List Char := '"' :: s.toList.flatMap escapedChar ++ ['"']

def floatChars (x : Binary64) : List Char :=
  match x with
  | .nan => "NaN".toList
  | .infinite s => if s then "-Infinity".toList else "Infinity".toList
  | x => x.text.toList

/-- A value without parts; lists and objects have none of their own. -/
def scalarChars : Json → List Char
  | .null => "null".toList
  | .bool b => if b then "true".toList else "false".toList
  | .int n => (wholeText n).toList
  | .float x => floatChars x
  | .text s => textChars s
  | .list _ | .object _ => []

mutual

/-- The value in one line. -/
def lineChars : Json → List Char
  | .list xs => '[' :: lineItems xs ++ [']']
  | .object fields => '\x7b' :: lineFields fields ++ ['\x7d']
  | x => scalarChars x

def lineItems : List Json → List Char
  | [] => []
  | [x] => lineChars x
  | x :: xs => lineChars x ++ ',' :: ' ' :: lineItems xs

def lineFields : List (String × Json) → List Char
  | [] => []
  | [(key, x)] => textChars key ++ ':' :: ' ' :: lineChars x
  | (key, x) :: fields =>
    textChars key ++ ':' :: ' ' :: lineChars x ++ ',' :: ' ' :: lineFields fields

end

def newLine (depth : Nat) : List Char := '\n' :: List.replicate (2 * depth) ' '

mutual

/-- The value over several lines, at a depth; what is empty stays in one line. -/
def blockChars (depth : Nat) : Json → List Char
  | .list [] => ['[', ']']
  | .list xs => '[' :: blockItems (depth + 1) xs ++ newLine depth ++ [']']
  | .object [] => ['\x7b', '\x7d']
  | .object fields => '\x7b' :: blockFields (depth + 1) fields ++ newLine depth ++ ['\x7d']
  | x => scalarChars x

def blockItems (depth : Nat) : List Json → List Char
  | [] => []
  | [x] => newLine depth ++ blockChars depth x
  | x :: xs => newLine depth ++ blockChars depth x ++ ',' :: blockItems depth xs

def blockFields (depth : Nat) : List (String × Json) → List Char
  | [] => []
  | [(key, x)] => newLine depth ++ textChars key ++ ':' :: ' ' :: blockChars depth x
  | (key, x) :: fields =>
    newLine depth ++ textChars key ++ ':' :: ' ' :: blockChars depth x ++ ',' ::
      blockFields depth fields

end

mutual

/-- Whether every whole number is within the limit for writing. -/
def writable : Json → Bool
  | .int n => (numeral n.natAbs).length ≤ digitLimit
  | .list xs => allWritable xs
  | .object fields => fieldsWritable fields
  | _ => true

def allWritable : List Json → Bool
  | [] => true
  | x :: xs => writable x && allWritable xs

def fieldsWritable : List (String × Json) → Bool
  | [] => true
  | (_, x) :: fields => writable x && fieldsWritable fields

end

def toLine (x : Json) : String := String.ofList (lineChars x)

/-- The value over several lines, refused when a whole number is beyond the limit. -/
def toBlock (x : Json) : Except Fault String :=
  if x.writable then .ok (String.ofList (blockChars 0 x)) else .error .numberTooLong

end Json
end ScriptProfiling
