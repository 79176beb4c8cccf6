import ScriptProfiling.Literal.Token

/-!
# Escapes in literals

A backslash and a letter begin an escape that names a character by hexadecimal digits
or between braces. Places in a text are counted as if all characters beyond the basic
ones were written as escapes of eight digits.
-/
namespace ScriptProfiling
namespace Literal

/-- How many digits follow the letter of an escape. -/
def escapeDigits? (c : Char) : Option Nat :=
  if c = 'x' then some 2 else if c = 'u' then some 4 else if c = 'U' then some 8 else none

/-- The last code point. -/
def codePointLimit : Nat := 0x10ffff

def hexValue (cs : List Char) : Nat :=
  cs.foldl (fun n c => 16 * n +
    (if isAsciiDigit c then c.toNat - 48 else c.toLower.toNat - 87)) 0

/-- The width of a character that is written in basic characters. -/
def writtenWidth (c : Char) : Nat := if c.toNat < 128 then 1 else 10

/-- The width of the escape that a backslash before a character makes. A backslash that
begins none is written as an escape itself. -/
def escapeWidth (c : Char) : Nat := if c.toNat < 128 then 2 else 6 + writtenWidth c

def textWidthFrom (cs : List Char) : Nat := cs.foldl (fun n c => n + writtenWidth c) 0

/-- What is wrong with the escape of a letter at a place, before the rest of the text. -/
def escapeFault? (place : Nat) (letter : Char) (cs : List Char) : Option EscapeFault :=
  match escapeDigits? letter with
  | some count =>
    let digits := (cs.take count).takeWhile isHexDigit
    if digits.length < count then some (.cutShort letter count place (place + 1 + digits.length))
    else if codePointLimit < hexValue digits then some (.noCharacter place (place + 1 + count))
    else none
  | none =>
    if letter = 'N' then
      match cs with
      | '{' :: more =>
        let name := more.takeWhile (· != '}')
        if name.length = more.length then some (.noName place (place + 2 + textWidthFrom name))
        else if name.isEmpty then some (.noName place (place + 2))
        else none
      | _ => some (.noName place (place + 1))
    else none

/-- The first fault among the escapes of a text that begins at a place. -/
def textFault? (place : Nat) : List Char → Option EscapeFault
  | '\\' :: c :: cs =>
    match escapeFault? place c cs with
    | some cause => some cause
    | none => textFault? (place + escapeWidth c) cs
  | c :: cs => textFault? (place + writtenWidth c) cs
  | [] => none

/-- The first fault among the escapes of bytes: only those of two digits can have one. -/
def bytesFault? (place : Nat) : List Char → Option EscapeFault
  | '\\' :: c :: cs =>
    if c = 'x' && ((cs.take 2).takeWhile isHexDigit).length < 2 then some (.cutShortByte place)
    else bytesFault? (place + 2) cs
  | _ :: cs => bytesFault? (place + 1) cs
  | [] => none

/-- Refuses bytes that are no basic characters, and bad escapes. A text with parts that
are computed is not looked into. -/
def checkText (letters body : List Char) : Except ExpressionFault Unit :=
  let fault :=
    if letters.contains 'r' || letters.contains 'f' then none
    else if letters.contains 'b' then bytesFault? 0 body
    else textFault? 0 body
  if letters.contains 'b' && body.any (128 ≤ ·.toNat) then .error .wideBytes
  else match fault with
    | some cause => .error (.badEscape cause)
    | none => .ok ()

end Literal
end ScriptProfiling
