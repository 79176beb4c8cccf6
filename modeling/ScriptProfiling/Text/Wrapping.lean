import ScriptProfiling.Text.Lines
import ScriptProfiling.Text.Width

/-!
# Wrapping

A line that is wider than the space for it is broken before the word that does not
fit any more. A word wider than the whole space is cut.
-/
namespace ScriptProfiling

def tabWidth : Nat := 8

/-- Fills each piece of a text but the last up to the next tab stop, from a column on. One
blank at least stands for a tab. -/
def expandPieces (column : Nat) : List (List Char) → List Char
  | [] => []
  | [piece] => piece
  | piece :: rest =>
    let reached := column + textWidth (piece ++ [' '])
    let blanks := (tabWidth - reached % tabWidth) % tabWidth
    piece ++ ' ' :: List.replicate blanks ' ' ++ expandPieces (reached + blanks) rest

def expandTabs (cs : List Char) : List Char := expandPieces 0 (splitAt '\t' cs)

/-- Reads words, the current one backward. A word has the blanks after it, and the first
one also those before it. -/
def wordsFrom (word : List Char) (ended : Bool) : List Char → List (List Char)
  | [] => [word.reverse]
  | c :: cs =>
    if isBlank c then wordsFrom (c :: word) (!word.all isBlank) cs
    else if ended then word.reverse :: wordsFrom [c] false cs
    else wordsFrom (c :: word) false cs

def wordsOf (cs : List Char) : List (List Char) := wordsFrom [] false cs

def dropEndBlanks (cs : List Char) : List Char := (dropBlanks cs.reverse).reverse

/-- Cuts clusters in pieces that are no wider than the space, the current one backward. -/
def chop (width : Nat) (piece : List (List Char)) (used : Nat) :
    List Cluster → List (List Char)
  | [] => if used = 0 then [] else [piece.reverse.flatten]
  | g :: gs =>
    if width < used + g.width then piece.reverse.flatten :: chop width [g.chars] g.width gs
    else chop width (g.chars :: piece) (used + g.width) gs

/-- Lines that are full, the last one first, and the one to which words are added, with
the columns that its words take. -/
structure Wrapped where
  full : List (List Char)
  line : List Char
  used : Nat

namespace Wrapped

def start : Wrapped := ⟨[], [], 0⟩

/-- Puts a text on a new line unless the line is still empty. -/
def newLine (w : Wrapped) (cs : List Char) : Wrapped :=
  ⟨if w.line.isEmpty then w.full else w.line :: w.full, cs, textWidth cs⟩

/-- The blanks behind a word need no space. -/
def addWord (width : Nat) (w : Wrapped) (word : List Char) : Wrapped :=
  let needed := textWidth (dropEndBlanks word)
  if w.used + needed ≤ width then ⟨w.full, w.line ++ word, w.used + textWidth word⟩
  else if width < needed then (chop width [] 0 (Cluster.ofText word)).foldl newLine w
  else w.newLine word

def lines (w : Wrapped) : List (List Char) := (w.line :: w.full).reverse

end Wrapped

/-- Blanks at the end are dropped as far as there are more characters than columns. -/
def dropExcess (width : Nat) (cs : List Char) : List Char :=
  let blanks := cs.length - (dropEndBlanks cs).length
  cs.take (cs.length - min blanks (cs.length - width))

/-- The clusters that fit, and a blank for the half of one that fits in part. -/
def cutClusters : Nat → List Cluster → List Char
  | 0, _ => []
  | _, [] => []
  | room + 1, g :: gs =>
    if g.width ≤ room + 1 then g.chars ++ cutClusters (room + 1 - g.width) gs else [' ']

/-- Cuts off what is beyond the width. -/
def cutExcess (width : Nat) (cs : List Char) : List Char :=
  if textWidth cs ≤ width then cs else cutClusters width (Cluster.ofText cs)

/-- A line in lines that fit into a width but for blanks at their ends. -/
def wrapLine (width : Nat) (cs : List Char) : List (List Char) :=
  (((wordsOf (expandTabs cs)).foldl (Wrapped.addWord width) .start).lines).map (dropExcess width)

def wrapLines (width : Nat) (cs : List Char) : List (List Char) :=
  (splitAt '\n' cs).flatMap (wrapLine width)

inductive Alignment where
  | left
  | centre
  | right
  deriving DecidableEq, Repr

/-- Brings a line to a width. -/
def align (a : Alignment) (width : Nat) (cs : List Char) : List Char :=
  let body := cutExcess width (if a = .left then cs else dropEndBlanks cs)
  let space := width - textWidth body
  let before := match a with
    | .left => 0
    | .centre => space / 2
    | .right => space
  List.replicate before ' ' ++ body ++ List.replicate (space - before) ' '

end ScriptProfiling
