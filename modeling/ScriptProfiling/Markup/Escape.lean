import ScriptProfiling.Markup.Piece

/-!
# Escaping

Text that goes into a report is escaped, so that what looks like a tag in it is shown
and not obeyed. Only tags need it, and a single backslash at the very end, which would
otherwise escape a tag behind the text.
-/
namespace ScriptProfiling

/-- One backslash more escapes the tag, and those before it are doubled to stay. -/
def escapedPiece : Piece → List Char
  | .char c => [c]
  | .tag escapes body => (Piece.tag (2 * escapes + 1) body).source

/-- Doubles the last backslash when there is exactly one at the end. -/
def closeEscape (cs : List Char) : List Char :=
  if (cs.reverse.takeWhile isBackslash).length = 1 then cs ++ ['\\'] else cs

def escapeChars (cs : List Char) : List Char := closeEscape ((pieces cs).flatMap escapedPiece)

def escapeMarkup (s : String) : String := String.ofList (escapeChars s.toList)

end ScriptProfiling
