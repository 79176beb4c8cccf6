/-!
# Control sequences

A control sequence of a terminal is an escape character, an opening bracket, parameters,
intermediate characters and a final one. Text for a file does not have them.
-/
namespace ScriptProfiling

def escapeChar : Char := Char.ofNat 27

/-- Digits and the marks between them. -/
def isParameter (c : Char) : Bool := '0' ≤ c && c ≤ '?'

def isIntermediate (c : Char) : Bool := ' ' ≤ c && c ≤ '/'

/-- Letters and the other characters of their two columns. -/
def isFinal (c : Char) : Bool := '@' ≤ c && c ≤ '~'

/-- How many characters a sequence at the head of a text has; none if there is none. -/
def sequenceLength : List Char → Nat
  | c :: '[' :: cs =>
    let parameters := cs.takeWhile isParameter
    let behind := cs.drop parameters.length
    let intermediates := behind.takeWhile isIntermediate
    match behind.drop intermediates.length with
    | last :: _ =>
      if c = escapeChar ∧ isFinal last then parameters.length + intermediates.length + 3 else 0
    | [] => 0
  | _ => 0

/-- Drops some characters at the head and all sequences after them. -/
def dropSequencesFrom : Nat → List Char → List Char
  | _, [] => []
  | skip + 1, _ :: cs => dropSequencesFrom skip cs
  | 0, c :: cs =>
    match sequenceLength (c :: cs) with
    | 0 => c :: dropSequencesFrom 0 cs
    | length + 1 => dropSequencesFrom length cs

/-- Text without control sequences. -/
def dropSequences (cs : List Char) : List Char := dropSequencesFrom 0 cs

end ScriptProfiling
