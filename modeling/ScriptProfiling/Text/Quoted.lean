import ScriptProfiling.Number.Decimal
import ScriptProfiling.Text.Printable

/-!
# Quoted text

A text between single quotes, or between double quotes when it holds single quotes
only. The mark itself, backslashes and characters that cannot be printed are escaped.
-/
namespace ScriptProfiling

def hexDigit (n : Nat) : Char := (Nat.toDigits 16 n).headD '0'

/-- The lowest `width` hexadecimal digits of `n`. -/
def hexDigits : Nat → Nat → List Char
  | 0, _ => []
  | width + 1, n => hexDigits width (n / 16) ++ [hexDigit (n % 16)]

/-- The mark that needs no escape, if there is one, and a single quote otherwise. -/
def quoteMark (single double : Bool) : Char := if single && !double then '"' else '\x27'

/-- Escapes that text and bytes share. -/
def shortEscape? (mark : Char) (n : Nat) : Option (List Char) :=
  if n = mark.toNat ∨ n = 0x5c then some ['\\', Char.ofNat n]
  else if n = 9 then some ['\\', 't']
  else if n = 10 then some ['\\', 'n']
  else if n = 13 then some ['\\', 'r']
  else none

def quotedChar (mark c : Char) : List Char :=
  match shortEscape? mark c.toNat with
  | some escape => escape
  | none =>
    if isPrintable c then [c]
    else if c.toNat < 0x100 then '\\' :: 'x' :: hexDigits 2 c.toNat
    else if c.toNat < 0x10000 then '\\' :: 'u' :: hexDigits 4 c.toNat
    else '\\' :: 'U' :: hexDigits 8 c.toNat

def quotedChars (cs : List Char) : List Char :=
  let mark := quoteMark (cs.contains '\x27') (cs.contains '"')
  mark :: cs.flatMap (quotedChar mark) ++ [mark]

def quoted (s : String) : String := String.ofList (quotedChars s.toList)

/-- The text in single quotes, with nothing escaped. -/
def inQuotes (s : String) : String := "'" ++ s ++ "'"

def quotedByte (mark : Char) (b : UInt8) : List Char :=
  match shortEscape? mark b.toNat with
  | some escape => escape
  | none =>
    if 32 ≤ b.toNat ∧ b.toNat < 127 then [Char.ofNat b.toNat]
    else '\\' :: 'x' :: hexDigits 2 b.toNat

/-- Bytes are quoted like text, with the letter `b` before the mark. -/
def quotedBytes (bs : List UInt8) : String :=
  let mark := quoteMark (bs.contains 39) (bs.contains 34)
  String.ofList ('b' :: mark :: bs.flatMap (quotedByte mark) ++ [mark])

end ScriptProfiling
