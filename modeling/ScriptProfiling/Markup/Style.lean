import ScriptProfiling.Number.Reading
import ScriptProfiling.Text.Lines
import ScriptProfiling.Text.Lowercase

/-!
# Style names

A tag is closed by its name. Names that describe one style are equal once they are
brought into a canonical form: attributes under their long names in a fixed order,
then the colour, the background and the link.
-/
namespace ScriptProfiling
namespace Style

/-- Attributes in canonical order, each with its short names. -/
def attributeNames : List (String × List String) :=
  [("bold", ["b"]), ("dim", ["d"]), ("italic", ["i"]), ("underline", ["u"]), ("blink", []),
   ("blink2", []), ("reverse", ["r"]), ("conceal", ["c"]), ("strike", ["s"]),
   ("underline2", ["uu"]), ("frame", []), ("encircle", []), ("overline", ["o"])]

def attribute? (word : String) : Option String :=
  (attributeNames.find? fun a => a.1 == word || a.2.contains word).map Prod.fst

/-- Names of colours, without the numbered shades. -/
def plainColors : List String :=
  ["black", "red", "green", "yellow", "blue", "magenta", "cyan", "white", "bright_black",
   "bright_red", "bright_green", "bright_yellow", "bright_blue", "bright_magenta",
   "bright_cyan", "bright_white", "navy_blue", "dark_blue", "dark_green", "dark_cyan",
   "light_sea_green", "dark_turquoise", "medium_spring_green", "dark_red", "blue_violet",
   "steel_blue", "cornflower_blue", "cadet_blue", "medium_turquoise", "dark_magenta",
   "dark_violet", "purple", "light_slate_grey", "light_slate_gray", "medium_purple",
   "light_slate_blue", "dark_sea_green", "light_green", "medium_violet_red", "indian_red",
   "medium_orchid", "dark_goldenrod", "rosy_brown", "dark_khaki", "light_steel_blue",
   "green_yellow", "orchid", "violet", "tan", "hot_pink", "dark_orange", "light_coral",
   "sandy_brown"]

/-- Colours whose shades are numbered, with the numbers that exist. -/
def shadedColors : List (String × List Nat) :=
  [("blue", [1, 3]), ("deep_sky_blue", [1, 2, 3, 4]), ("dodger_blue", [1, 2, 3]),
   ("green", [1, 3, 4]), ("spring_green", [1, 2, 3, 4]), ("turquoise", [2, 4]),
   ("cyan", [1, 2, 3]), ("deep_pink", [1, 2, 3, 4]), ("purple", [3, 4]), ("orange", [1, 3, 4]),
   ("medium_purple", [1, 2, 3, 4]), ("slate_blue", [1, 3]), ("royal_blue", [1]),
   ("chartreuse", [1, 2, 3, 4]), ("dark_sea_green", [1, 2, 3, 4]), ("pale_turquoise", [1, 4]),
   ("steel_blue", [1, 3]), ("sky_blue", [1, 2, 3]), ("pale_green", [1, 3]),
   ("sea_green", [1, 2, 3]), ("aquamarine", [1, 3]), ("dark_slate_gray", [1, 2, 3]),
   ("light_pink", [1, 3, 4]), ("plum", [1, 2, 3, 4]), ("yellow", [1, 2, 3, 4]),
   ("wheat", [1, 4]), ("dark_olive_green", [1, 2, 3]), ("light_sky_blue", [1, 3]),
   ("red", [1, 3]), ("magenta", [1, 2, 3]), ("dark_orange", [3]), ("indian_red", [1]),
   ("hot_pink", [2, 3]), ("medium_orchid", [1, 3]), ("light_salmon", [1, 3]), ("gold", [1, 3]),
   ("navajo_white", [1, 3]), ("light_steel_blue", [1, 3]), ("light_cyan", [1, 3]),
   ("pink", [1, 3]), ("light_goldenrod", [1, 2, 3]), ("misty_rose", [1, 3]),
   ("thistle", [1, 3]), ("khaki", [1, 3]), ("light_yellow", [3]), ("honeydew", [2]),
   ("orange_red", [1]), ("salmon", [1]), ("pale_violet_red", [1]), ("orchid", [1, 2]),
   ("cornsilk", [1])]

def greyLevels : List Nat :=
  [0, 3, 7, 11, 15, 19, 23, 27, 30, 35, 37, 39, 42, 46, 50, 53, 54, 58, 62, 63, 66, 69, 70, 74,
   78, 82, 84, 85, 89, 93, 100]

def withNumber (name : String) (n : Nat) : String := name ++ String.ofList (numeral n)

def isColorName (word : String) : Bool :=
  word == "default" || plainColors.contains word ||
    shadedColors.any (fun c => c.2.any fun n => withNumber c.1 n == word) ||
    greyLevels.any fun n => withNumber "grey" n == word || withNumber "gray" n == word

def isSmallHex (c : Char) : Bool := isAsciiDigit c || ('a' ≤ c && c ≤ 'f')

/-- What stands between a name with an opening bracket and the closing bracket at the end. -/
def inCall? (name : String) (cs : List Char) : Option (List Char) :=
  let head := name.toList ++ ['(']
  if head.isPrefixOf cs && cs.getLast? == some ')' then some ((cs.drop head.length).dropLast)
  else none

def isComponentChar (c : Char) : Bool := isDigit c || isBlank c || c == ','

/-- Whether three numbers make a colour. One that is missing is a fault. -/
def isTriplet (cs : List Char) : Except Fault Bool :=
  match splitAt ',' cs with
  | [r, g, b] => do
    let components ← [r, g, b].mapM fun part => parseWhole (String.ofList part)
    return components.all (· ≤ 255)
  | _ => .ok false

/-- Whether a word in lower case is a colour. -/
def isColor (word : String) : Except Fault Bool :=
  let cs := word.toList
  if isColorName word then .ok true
  else
    match cs with
    | '#' :: digits => .ok (digits.length == 6 && digits.all isSmallHex)
    | _ =>
      match inCall? "color" cs, inCall? "rgb" cs with
      | some digits, _ =>
        .ok (!digits.isEmpty && digits.length ≤ 3 && digits.all isAsciiDigit &&
          digitsValue digits ≤ 255)
      | none, some parts =>
        if !parts.isEmpty && parts.all isComponentChar then isTriplet parts else .ok false
      | none, none => .ok false

/-- A style as its words give it. -/
structure Parts where
  attributes : List (String × Bool)
  color : Option String
  background : Option String
  link : Option String

def Parts.none : Parts := ⟨[], .none, .none, .none⟩

def Parts.set (p : Parts) (name : String) (on : Bool) : Parts :=
  { p with attributes := p.attributes.filter (·.1 != name) ++ [(name, on)] }

/-- The canonical name. -/
def Parts.name (p : Parts) : String :=
  let attributes := attributeNames.filterMap fun a =>
    (p.attributes.lookup a.1).map fun on => if on then a.1 else "not " ++ a.1
  let words := attributes ++ p.color.toList ++
    (p.background.map fun c => "on " ++ c).toList ++ (p.link.map fun l => "link " ++ l).toList
  if words.isEmpty then "none" else " ".intercalate words

/-- Reads words in order; nothing is returned when they are no style. -/
def readWords (p : Parts) : List String → Except Fault (Option Parts)
  | [] => .ok (some p)
  | original :: words =>
    let word := lowercaseText original
    if word = "on" then
      match words with
      | [] => .ok .none
      | color :: words => do
        let color := lowercaseText color
        if ← isColor color then readWords { p with background := some color } words
        else return .none
    else if word = "not" then
      match words with
      | [] => .ok .none
      | name :: words =>
        match attribute? name with
        | some name => readWords (p.set name false) words
        | .none => .ok .none
    else if word = "link" then
      match words with
      | [] => .ok .none
      | target :: words => readWords { p with link := some target } words
    else
      match attribute? word with
      | some name => readWords (p.set name true) words
      | .none => do
        if ← isColor word then readWords { p with color := some word } words else return .none

/-- The words of a text, which blanks separate. -/
def wordsOf (cs : List Char) : List (List Char) :=
  (splitAt ' ' (cs.map fun c => if isBlank c then ' ' else c)).filter (!·.isEmpty)

/-- The name under which a tag is opened and closed. A name that is no style stands for
itself in lower case. -/
def normalName (cs : List Char) : Except Fault String := do
  if strip cs = "none".toList then return "none"
  match ← readWords .none ((wordsOf cs).map String.ofList) with
  | some parts => return parts.name
  | .none => return lowercaseText (String.ofList (strip cs))

end Style
end ScriptProfiling
