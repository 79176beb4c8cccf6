/-!
# Reading text from bytes

Each step looks at the bytes ahead and either reads one character or names the
faulty bytes. A strict reader stops at the first fault; a lenient one puts the
replacement character in its place and goes on behind it.
-/
namespace ScriptProfiling

inductive Utf8Fault where
  | invalidStart
  | invalidContinuation
  | unexpectedEnd
  deriving DecidableEq, Repr

def Utf8Fault.message : Utf8Fault → String
  | .invalidStart => "invalid start byte"
  | .invalidContinuation => "invalid continuation byte"
  | .unexpectedEnd => "unexpected end of data"

/-- What stands at the head of some bytes, with the count of bytes it takes. -/
inductive Utf8Step where
  | char (c : Char) (length : Nat)
  | fault (cause : Utf8Fault) (length : Nat)

def isContinuation (n : Nat) : Bool := 0x80 ≤ n && n < 0xc0

/-- The second byte may not write a number that fewer bytes write, nor a surrogate,
nor one above the last code point. -/
def fitsSecond (lead n : Nat) : Bool :=
  isContinuation n &&
    (if lead = 0xe0 then 0xa0 ≤ n
    else if lead = 0xed then n < 0xa0
    else if lead = 0xf0 then 0x90 ≤ n
    else if lead = 0xf4 then n < 0x90
    else true)

/-- How many bytes a sequence has by its first one. -/
def sequenceLength? (lead : Nat) : Option Nat :=
  if lead < 0x80 then some 1
  else if lead < 0xc2 then none
  else if lead < 0xe0 then some 2
  else if lead < 0xf0 then some 3
  else if lead < 0xf5 then some 4
  else none

/-- How many of the bytes after the first one belong to its sequence. -/
def fittingBytes (lead : Nat) (bytes : List Nat) : Nat :=
  match bytes with
  | [] => 0
  | b :: bs => if fitsSecond lead b then 1 + (bs.takeWhile isContinuation).length else 0

def utf8Step (lead : UInt8) (rest : List UInt8) : Utf8Step :=
  match sequenceLength? lead.toNat with
  | none => .fault .invalidStart 1
  | some length =>
    let ahead := (rest.take (length - 1)).map UInt8.toNat
    let fitting := fittingBytes lead.toNat ahead
    if fitting = length - 1 then
      let high := if length = 1 then lead.toNat else lead.toNat % Nat.pow 2 (7 - length)
      .char (Char.ofNat (ahead.foldl (fun n b => 64 * n + b % 64) high)) length
    else if fitting < ahead.length then .fault .invalidContinuation (1 + fitting)
    else .fault .unexpectedEnd (1 + fitting)

/-- The faulty bytes of a text and where they stand. -/
structure Utf8Error where
  cause : Utf8Fault
  first : UInt8
  start : Nat
  length : Nat
  deriving DecidableEq, Repr

/-- Reads from a position, passing over `skip` bytes of the sequence before. The
characters up to the first fault are kept beside it. -/
def decodeFrom (position skip : Nat) (read : List Char) :
    List UInt8 → List Char × Option Utf8Error
  | [] => (read.reverse, none)
  | b :: bs =>
    match skip with
    | skip + 1 => decodeFrom (position + 1) skip read bs
    | 0 =>
      match utf8Step b bs with
      | .char c length => decodeFrom (position + 1) (length - 1) (c :: read) bs
      | .fault cause length => (read.reverse, some ⟨cause, b, position, length⟩)

def decodeUtf8 (bytes : List UInt8) : Except Utf8Error (List Char) :=
  match decodeFrom 0 0 [] bytes with
  | (text, none) => .ok text
  | (_, some e) => .error e

def replacementChar : Char := Char.ofNat 0xfffd

def decodeLenientFrom (skip : Nat) (read : List Char) : List UInt8 → List Char
  | [] => read.reverse
  | b :: bs =>
    match skip with
    | skip + 1 => decodeLenientFrom skip read bs
    | 0 =>
      match utf8Step b bs with
      | .char c length => decodeLenientFrom (length - 1) (c :: read) bs
      | .fault _ length => decodeLenientFrom (length - 1) (replacementChar :: read) bs

def decodeLenient (bytes : List UInt8) : List Char := decodeLenientFrom 0 [] bytes

/-- Text read so far from a stream of chunks, and the bytes of a sequence that the next
chunk may complete. -/
structure Utf8Stream where
  text : List Char
  pending : List UInt8

/-- Reads one chunk more. Positions in a fault count from the first pending byte. -/
def Utf8Stream.feed (s : Utf8Stream) (chunk : List UInt8) : Except Utf8Error Utf8Stream :=
  let bytes := s.pending ++ chunk
  match decodeFrom 0 0 [] bytes with
  | (text, none) => .ok ⟨s.text ++ text, []⟩
  | (text, some e) =>
    if e.cause = .unexpectedEnd then .ok ⟨s.text ++ text, bytes.drop e.start⟩ else .error e

/-- At the end of a stream nothing may be pending. -/
def Utf8Stream.finish (s : Utf8Stream) : Option Utf8Error :=
  match s.pending with
  | [] => none
  | b :: bs => some ⟨.unexpectedEnd, b, 0, bs.length + 1⟩

/-- Feeds chunks up to the first fault; the text of the chunks before it stays. -/
def Utf8Stream.feedAll (s : Utf8Stream) : List (List UInt8) → List Char × Option Utf8Error
  | [] => (s.text, s.finish)
  | chunk :: chunks =>
    match s.feed chunk with
    | .error e => (s.text, some e)
    | .ok next => next.feedAll chunks

/-- The bytes in pieces of a size; the fuel is their count. -/
def chunksOf (size : Nat) : Nat → List UInt8 → List (List UInt8)
  | 0, _ => []
  | fuel + 1, bytes =>
    if bytes.isEmpty then [] else bytes.take size :: chunksOf size fuel (bytes.drop size)

def encodeUtf8 (s : String) : List UInt8 := s.toUTF8.toList

end ScriptProfiling
