/-!
# Lines

A text is cut after each line end; the last line end adds no further line. Which
characters end a line depends on the reader: text files end lines at line feeds and
carriage returns, scripts also at a number of rarer separators.
-/
namespace ScriptProfiling

def endsFileLine (c : Char) : Bool := c == '\n' || c == '\r'

def endsScriptLine (c : Char) : Bool :=
  endsFileLine c || [0x0b, 0x0c, 0x1c, 0x1d, 0x1e, 0x85, 0x2028, 0x2029].contains c.toNat

/-- The lines of a text that follows `line`, which is given backward. A carriage
return and the line feed after it are one line end. -/
def cutLines (isEnd : Char → Bool) (line : List Char) : List Char → List (List Char)
  | [] => if line.isEmpty then [] else [line.reverse]
  | '\r' :: '\n' :: cs => line.reverse :: cutLines isEnd [] cs
  | c :: cs =>
    if isEnd c then line.reverse :: cutLines isEnd [] cs else cutLines isEnd (c :: line) cs

def fileLines (cs : List Char) : List (List Char) := cutLines endsFileLine [] cs

def scriptLines (cs : List Char) : List (List Char) := cutLines endsScriptLine [] cs

/-- The pieces between the places where `sep` stands: always one more than there
are such places. -/
def splitAt (sep : Char) : List Char → List (List Char)
  | [] => [[]]
  | c :: cs =>
    match splitAt sep cs with
    | [] => [[]]
    | piece :: rest => if c = sep then [] :: piece :: rest else (c :: piece) :: rest

theorem splitAt_ne_nil (sep : Char) (cs : List Char) : splitAt sep cs ≠ [] := by
  cases cs with
  | nil => simp [splitAt]
  | cons c cs =>
    simp only [splitAt]
    split
    · simp
    · split <;> simp

/-- The lines of a text that ends them at line feeds only, the empty piece after the
last line feed left out. -/
def feedLines (cs : List Char) : List (List Char) :=
  let pieces := splitAt '\n' cs
  if pieces.getLast? = some [] then pieces.dropLast else pieces

def splitLines (s : String) : List String := (splitAt '\n' s.toList).map String.ofList

def joinLines (lines : List String) : String := "\n".intercalate lines

end ScriptProfiling
