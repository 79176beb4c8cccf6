import ScriptProfiling.Json.Basic
import ScriptProfiling.Number.Reading

/-!
# Reading JSON

Each reader takes what it needs from the head of the text and returns the rest. Fuel
bounds the nesting and the count of items; a text holds fewer of both than characters.
-/
namespace ScriptProfiling

inductive JsonFault where
  | expectedValue
  | expectedName
  | expectedColon
  | expectedComma
  | extraData
  | unterminated
  | controlCharacter
  | badEscape
  | badUnitEscape
  | byteOrderMark
  /-- A whole number beyond the limit of digits, which is no fault of the format. -/
  | numeralTooLong (digits : Nat)
  deriving DecidableEq, Repr

def JsonFault.message : JsonFault → String
  | .expectedValue => "Expecting value"
  | .expectedName => "Expecting property name enclosed in double quotes"
  | .expectedColon => "Expecting ':' delimiter"
  | .expectedComma => "Expecting ',' delimiter"
  | .extraData => "Extra data"
  | .unterminated => "Unterminated string starting at"
  | .controlCharacter => "Invalid control character at"
  | .badEscape => "Invalid \\escape"
  | .badUnitEscape => "Invalid \\uXXXX escape"
  | .byteOrderMark => "Unexpected UTF-8 BOM (decode using utf-8-sig)"
  | .numeralTooLong digits => (Fault.numeralTooLong digits).message

namespace Json

def isSpace (c : Char) : Bool := c == ' ' || c == '\t' || c == '\n' || c == '\r'

def skipSpace (cs : List Char) : List Char := cs.dropWhile isSpace

def hexValue? (c : Char) : Option Nat :=
  if '0' ≤ c && c ≤ '9' then some (c.toNat - 48)
  else if 'a' ≤ c && c ≤ 'f' then some (c.toNat - 87)
  else if 'A' ≤ c && c ≤ 'F' then some (c.toNat - 55)
  else none

def hexNumber? (cs : List Char) : Option Nat :=
  cs.foldl (fun n? c => do return 16 * (← n?) + (← hexValue? c)) (some 0)

def isHighUnit (n : Nat) : Bool := 0xd800 ≤ n && n < 0xdc00
def isLowUnit (n : Nat) : Bool := 0xdc00 ≤ n && n < 0xe000

/-- The characters read so far, backward, with a first unit that still waits for its
second one. -/
structure Units where
  read : List Char
  high : Option Nat

/-- A first unit without a second is no character and no text can hold it. It is read as the
replacement character, as a second unit without a first is, so that names that differ in such
units only become one. -/
def Units.settle (u : Units) : List Char :=
  match u.high with
  | some _ => replacementChar :: u.read
  | none => u.read

def Units.push (u : Units) (c : Char) : Units := ⟨c :: u.settle, none⟩

def Units.pushUnit (u : Units) (n : Nat) : Units :=
  match u.high with
  | some high =>
    if isLowUnit n then
      ⟨Char.ofNat (0x10000 + (high - 0xd800) * 0x400 + (n - 0xdc00)) :: u.read, none⟩
    else if isHighUnit n then ⟨u.settle, some n⟩
    else u.push (Char.ofNat n)
  | none =>
    if isHighUnit n then ⟨u.read, some n⟩
    else if isLowUnit n then u.push replacementChar
    else u.push (Char.ofNat n)

def shortUnescape? (c : Char) : Option Char :=
  if c = '"' ∨ c = '\\' ∨ c = '/' then some c
  else if c = 'b' then some (Char.ofNat 8)
  else if c = 'f' then some (Char.ofNat 12)
  else if c = 'n' then some '\n'
  else if c = 'r' then some '\r'
  else if c = 't' then some '\t'
  else none

/-- The rest of a text after its opening mark. -/
def readText (u : Units) : List Char → Except JsonFault (String × List Char)
  | [] => .error .unterminated
  | '"' :: cs => .ok (String.ofList u.settle.reverse, cs)
  | ['\\'] => .error .unterminated
  | '\\' :: 'u' :: a :: b :: c :: d :: next :: cs =>
    match hexNumber? [a, b, c, d] with
    | some n => readText (u.pushUnit n) (next :: cs)
    | none => .error .badUnitEscape
  | '\\' :: 'u' :: _ => .error .badUnitEscape
  | '\\' :: c :: cs =>
    match shortUnescape? c with
    | some c => readText (u.push c) cs
    | none => .error .badEscape
  | c :: cs => if c.toNat < 32 then .error .controlCharacter else readText (u.push c) cs

/-- The digits of a whole number: a zero stands alone. -/
def readNatural? : List Char → Option (List Char × List Char)
  | '0' :: cs => some (['0'], cs)
  | cs =>
    let digits := cs.takeWhile isAsciiDigit
    if digits.isEmpty then none else some (digits, cs.drop digits.length)

/-- A point and the digits after it; nothing is taken without a digit. -/
def readFraction (cs : List Char) : List Char × List Char :=
  match cs with
  | '.' :: more =>
    let digits := more.takeWhile isAsciiDigit
    if digits.isEmpty then ([], cs) else (digits, more.drop digits.length)
  | _ => ([], cs)

/-- A decimal exponent; nothing is taken without a digit. -/
def readPower (cs : List Char) : Option Int × List Char :=
  match cs with
  | c :: more =>
    if c = 'e' ∨ c = 'E' then
      let (negative, body) := takeSign more
      let digits := body.takeWhile isAsciiDigit
      if digits.isEmpty then (none, cs)
      else (some (if negative then -(digitsValue digits : Int) else digitsValue digits),
        body.drop digits.length)
    else (none, cs)
  | [] => (none, cs)

/-- A number behind its sign. -/
def readUnsigned (negative : Bool) (cs : List Char) : Except JsonFault (Json × List Char) :=
  match readNatural? cs with
  | none => .error .expectedValue
  | some (digits, rest) =>
    let (fraction, rest) := readFraction rest
    let (power?, rest) := readPower rest
    if fraction.isEmpty && power?.isNone then
      if digitLimit < digits.length then .error (.numeralTooLong digits.length)
      else
        let n : Int := digitsValue digits
        .ok (.int (if negative then -n else n), rest)
    else
      .ok (.float (ofDecimal negative (digitsValue (digits ++ fraction))
        (power?.getD 0 - fraction.length)), rest)

def readNumber : List Char → Except JsonFault (Json × List Char)
  | '-' :: cs => readUnsigned true cs
  | cs => readUnsigned false cs

def namedValues : List (String × Json) :=
  [("null", .null), ("true", .bool true), ("false", .bool false), ("NaN", .float .nan),
   ("Infinity", .float (.infinite false)), ("-Infinity", .float (.infinite true))]

/-- A value without parts. -/
def readScalar (cs : List Char) : Except JsonFault (Json × List Char) :=
  match namedValues.find? fun v => v.1.toList.isPrefixOf cs with
  | some v => .ok (v.2, cs.drop v.1.length)
  | none => readNumber cs

mutual

def readValue : Nat → List Char → Except JsonFault (Json × List Char)
  | 0, _ => .error .expectedValue
  | fuel + 1, cs =>
    match cs with
    | '"' :: more => (readText ⟨[], none⟩ more).map fun r => (.text r.1, r.2)
    | '[' :: more =>
      match skipSpace more with
      | ']' :: rest => .ok (.list [], rest)
      | inner => (readItems fuel [] inner).map fun r => (.list r.1, r.2)
    | '\x7b' :: more =>
      match skipSpace more with
      | '\x7d' :: rest => .ok (.object [], rest)
      | inner => (readFields fuel [] inner).map fun r => (.object r.1, r.2)
    | _ => readScalar cs

/-- The items of a list up to its end, after the ones read before, which are given
backward. -/
def readItems : Nat → List Json → List Char → Except JsonFault (List Json × List Char)
  | 0, _, _ => .error .expectedValue
  | fuel + 1, read, cs =>
    match readValue fuel cs with
    | .error e => .error e
    | .ok (x, rest) =>
      match skipSpace rest with
      | ']' :: rest => .ok ((x :: read).reverse, rest)
      | ',' :: rest => readItems fuel (x :: read) (skipSpace rest)
      | _ => .error .expectedComma

/-- The fields of an object up to its end, after the ones read before. -/
def readFields : Nat → List (String × Json) → List Char →
    Except JsonFault (List (String × Json) × List Char)
  | 0, _, _ => .error .expectedName
  | fuel + 1, read, cs =>
    match cs with
    | '"' :: more =>
      match readText ⟨[], none⟩ more with
      | .error e => .error e
      | .ok (key, rest) =>
        match skipSpace rest with
        | ':' :: rest =>
          match readValue fuel (skipSpace rest) with
          | .error e => .error e
          | .ok (x, rest) =>
            match skipSpace rest with
            | '\x7d' :: rest => .ok (Catalog.fileIn key x read, rest)
            | ',' :: rest => readFields fuel (Catalog.fileIn key x read) (skipSpace rest)
            | _ => .error .expectedComma
        | _ => .error .expectedColon
    | _ => .error .expectedName

end

/-- The one value that a text writes. -/
def parse (s : String) : Except JsonFault Json :=
  let cs := s.toList
  if cs.head? = some (Char.ofNat 0xfeff) then .error .byteOrderMark
  else
    match readValue (2 * cs.length + 2) (skipSpace cs) with
    | .error e => .error e
    | .ok (x, rest) => if (skipSpace rest).isEmpty then .ok x else .error .extraData

end Json
end ScriptProfiling
