/-!
# Blank characters and ranges of code points

A class of characters is a list of closed ranges of code points.
-/
namespace ScriptProfiling

/-- Whether a code point lies in one of the closed ranges. -/
def inRanges (ranges : List (Nat × Nat)) (n : Nat) : Bool :=
  ranges.any fun r => r.1 ≤ n && n ≤ r.2

/-- Characters with the whitespace property or a separating bidirectional type. -/
def blankRanges : List (Nat × Nat) :=
  [(0x9, 0xd), (0x1c, 0x20), (0x85, 0x85), (0xa0, 0xa0), (0x1680, 0x1680), (0x2000, 0x200a),
   (0x2028, 0x2029), (0x202f, 0x202f), (0x205f, 0x205f), (0x3000, 0x3000)]

def isBlank (c : Char) : Bool := inRanges blankRanges c.toNat

def dropBlanks (cs : List Char) : List Char := cs.dropWhile isBlank

/-- The text without the blanks at both ends. -/
def strip (cs : List Char) : List Char := (dropBlanks (dropBlanks cs).reverse).reverse

end ScriptProfiling
