import ScriptProfiling.Number.Basic
import ScriptProfiling.Text.Digit

/-!
# Reading numbers

Numerals may stand between blanks, use the digits of any script and separate digits
by single underscores. A refusal quotes the text as it was given.
-/
namespace ScriptProfiling

/-- Blanks that may surround a numeral once it is written in the basic characters. -/
def isAsciiBlank (c : Char) : Bool := c == ' ' || (9 ≤ c.toNat && c.toNat ≤ 13)

def isAsciiDigit (c : Char) : Bool := '0' ≤ c && c ≤ '9'

def asciiDigit (n : Nat) : Char := Char.ofNat (48 + n)

/-- Digits and blanks of all scripts in their basic form. The text ends with a mark
that no numeral holds where another character stands. -/
def toBasic : List Char → List Char
  | [] => []
  | c :: cs =>
    if c.toNat < 127 then c :: toBasic cs
    else if isBlank c then ' ' :: toBasic cs
    else match digitValue? c with
      | some d => asciiDigit d :: toBasic cs
      | none => ['?']

def basicForm (cs : List Char) : List Char :=
  if cs.all fun c => c.toNat < 128 then cs else toBasic cs

def trimAscii (cs : List Char) : List Char :=
  ((cs.dropWhile isAsciiBlank).reverse.dropWhile isAsciiBlank).reverse

/-- A sign in front, and whether it is a minus. -/
def takeSign : List Char → Bool × List Char
  | '-' :: cs => (true, cs)
  | '+' :: cs => (false, cs)
  | cs => (false, cs)

/-- Each underscore stands between two digits; `previous` is whether a digit stands before. -/
def underscoresFit (previous : Bool) : List Char → Bool
  | [] => true
  | '_' :: c :: cs => previous && isAsciiDigit c && underscoresFit true cs
  | ['_'] => false
  | c :: cs => underscoresFit (isAsciiDigit c) cs

/-- The whole number that a text writes, or nothing. Too many digits are a fault of
their own, found before what follows them. -/
def readWhole? (cs : List Char) : Except Nat (Option Int) :=
  let (negative, body) := takeSign (trimAscii cs)
  let run := body.takeWhile fun c => isAsciiDigit c || c == '_'
  let rest := body.drop run.length
  let digits := run.filter isAsciiDigit
  if run.isEmpty || !underscoresFit false run then .ok none
  else if digitLimit < digits.length then .error digits.length
  else if !rest.isEmpty then .ok none
  else .ok (some (if negative then -(digitsValue digits : Int) else digitsValue digits))

/-- Texts in a refusal to read a whole number are cut at this length. -/
def quotedCut (s : String) : String := String.ofList (s.toList.take 200)

def wholeOf (cs : List Char) (written : String) : Except Fault Int :=
  match readWhole? cs with
  | .error digits => .error (.numeralTooLong digits)
  | .ok none => .error (.notWhole (quotedCut written))
  | .ok (some n) => .ok n

def parseWhole (s : String) : Except Fault Int := wholeOf (basicForm s.toList) (quoted s)

/-- Decimal powers are cut here: no floating-point number needs more. -/
def powerBound : Int := 400

/-- The floating-point number nearest to `m * 10 ^ e`. -/
def ofDecimal (negative : Bool) (m : Nat) (e : Int) : Binary64 :=
  let size := (decimalLength m : Int) + e
  if m = 0 || size < -powerBound then .zero negative
  else if powerBound < size then .infinite negative
  else .nearest negative (raiseTen m e) (raiseTen 1 (-e))

/-- An exponent after its mark; it needs a digit. -/
def readExponent? (cs : List Char) : Option Int :=
  let (negative, digits) := takeSign cs
  if digits.isEmpty || !digits.all isAsciiDigit then none
  else some (if negative then -(digitsValue digits : Int) else digitsValue digits)

/-- A decimal numeral without sign: digits with at most one point, at least one digit,
and perhaps an exponent. -/
def readDecimal? (negative : Bool) (cs : List Char) : Option Binary64 :=
  let before := cs.takeWhile isAsciiDigit
  let rest := cs.drop before.length
  let fraction := match rest with
    | '.' :: more => more.takeWhile isAsciiDigit
    | _ => []
  let rest := match rest with
    | '.' :: more => more.drop fraction.length
    | _ => rest
  let exponent? := match rest with
    | [] => some 0
    | c :: more => if c == 'e' || c == 'E' then readExponent? more else none
  if before.isEmpty && fraction.isEmpty then none
  else exponent?.map fun e =>
    ofDecimal negative (digitsValue (before ++ fraction)) (e - fraction.length)

def asciiLower (cs : List Char) : List Char := cs.map Char.toLower

/-- A floating-point numeral, or one of the names of the other values. -/
def readFloat? (cs : List Char) : Option Binary64 :=
  let text := trimAscii cs
  if !underscoresFit false text then none
  else
    let (negative, body) := takeSign (text.filter (· != '_'))
    let word := String.ofList (asciiLower body)
    if word == "inf" || word == "infinity" then some (.infinite negative)
    else if word == "nan" then some .nan
    else readDecimal? negative body

def parseFloat (s : String) : Except Fault Binary64 :=
  match readFloat? (basicForm s.toList) with
  | some x => .ok x
  | none => .error (.notNumeric (quoted s))

def bytesAsChars (bs : List UInt8) : List Char := bs.map fun b => Char.ofNat b.toNat

namespace Value

/-- The whole number that a value gives: numerals are read and fractions cut off. -/
def toWhole : Value → Except Fault Int
  | .int n => .ok n
  | .bool b => .ok (Number.flagValue b)
  | .float x => x.truncate
  | .text s => parseWhole s
  | .bytes bs => wholeOf (bytesAsChars bs) (quotedBytes bs)
  | value => .error (.wholeFrom value.typeName)

/-- The floating-point number that a value gives. -/
def toFloat : Value → Except Fault Binary64
  | .int n => wholeToFloat n
  | .bool b => wholeToFloat (Number.flagValue b)
  | .float x => .ok x
  | .text s => parseFloat s
  | .bytes bs =>
    match readFloat? (bytesAsChars bs) with
    | some x => .ok x
    | none => .error (.notNumeric (quotedBytes bs))
  | value => .error (.numberFrom value.typeName)

end Value
end ScriptProfiling
