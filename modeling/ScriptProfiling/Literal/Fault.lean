import ScriptProfiling.Text.Quoted

/-!
# Faults in literals

A literal is an expression that gives its own value. Its text can be wrong in its
characters, its brackets or its grammar, and an expression that is well written may
still be no literal.
-/
namespace ScriptProfiling

/-- An escape that stands for no character, between two positions of its text. -/
inductive EscapeFault where
  | cutShort (letter : Char) (digits first last : Nat)
  | noCharacter (first last : Nat)
  | noName (first last : Nat)
  /-- In bytes, where only the beginning is told. -/
  | cutShortByte (position : Nat)
  deriving DecidableEq, Repr

def escapePlace (first last : Nat) : String :=
  "(unicode error) 'unicodeescape' codec can't decode bytes in position " ++ wholeText first ++
    "-" ++ wholeText last ++ ": "

def EscapeFault.message : EscapeFault → String
  | .cutShort letter digits first last =>
    escapePlace first last ++ "truncated \\" ++
      String.ofList (letter :: List.replicate digits 'X') ++ " escape"
  | .noCharacter first last => escapePlace first last ++ "illegal Unicode character"
  | .noName first last => escapePlace first last ++ "malformed \\N character escape"
  | .cutShortByte position =>
    "(value error) invalid \\x escape at position " ++ wholeText position

/-- What is wrong with the way an expression is written. -/
inductive ExpressionFault where
  | nulCharacter
  | strangeCharacter (c : Char)
  | strayBackslash
  | unterminated (long : Bool) (line : Nat)
  | badNumeral (kind : String)
  | badDigit (digit : Char) (kind : String)
  | leadingZeros
  | longNumeral (digits : Nat)
  | unopened (closing : Char)
  /-- A closing bracket of another kind, with the line of the opening one if it is another. -/
  | mismatched (closing opening : Char) (line : Option Nat)
  | tooDeep
  | unclosed (opening : Char)
  | wideBytes
  | mixedTexts
  | badEscape (cause : EscapeFault)
  | indented
  | ungrammatical
  | missingComma
  | missingElse
  | missingKeyMark
  | missingValue
  | starredValue
  | bareCall (name : String)
  /-- A name with one equals sign behind it where a value stands. -/
  | singleEquals
  | equalsBehind (noun : String)
  | noTarget (noun : String)
  | noNameForValue (noun : String)
  | argumentAssigned
  | bareStar
  | starredGroup
  | doublyStarredGroup
  | starredComprehension
  | openComprehensionTarget
  | mappingComprehension
  | openGenerator
  /-- A plain argument behind a named one, or behind the spread of a mapping. -/
  | lateArgument (spread : Bool)
  | lateSpread
  deriving DecidableEq, Repr

namespace ExpressionFault

def ungrammaticalText : String := "invalid syntax"

def codePointText (c : Char) : String :=
  "U+" ++ (String.ofList (hexDigits (max 4 (Nat.toDigits 16 c.toNat).length) c.toNat)).toUpper

def message : ExpressionFault → String
  | nulCharacter => "source code string cannot contain null bytes"
  | strangeCharacter c =>
    if isPrintable c then
      "invalid character '" ++ String.singleton c ++ "' (" ++ codePointText c ++ ")"
    else "invalid non-printable character " ++ codePointText c
  | strayBackslash => "unexpected character after line continuation character"
  | unterminated long line =>
    "unterminated " ++ (if long then "triple-quoted " else "") ++
      "string literal (detected at line " ++ wholeText line ++ ")"
  | badNumeral kind => "invalid " ++ kind ++ " literal"
  | badDigit digit kind =>
    "invalid digit '" ++ String.singleton digit ++ "' in " ++ kind ++ " literal"
  | leadingZeros =>
    "leading zeros in decimal integer literals are not permitted; " ++
      "use an 0o prefix for octal integers"
  | longNumeral digits =>
    longNumeralText digits ++ " - Consider hexadecimal for huge integer literals " ++
      "to avoid decimal conversion limits."
  | unopened closing => "unmatched '" ++ String.singleton closing ++ "'"
  | mismatched closing opening line =>
    "closing parenthesis '" ++ String.singleton closing ++
      "' does not match opening parenthesis '" ++ String.singleton opening ++ "'" ++
      (match line with
        | some n => " on line " ++ wholeText n
        | none => "")
  | tooDeep => "too many nested parentheses"
  | unclosed opening => "'" ++ String.singleton opening ++ "' was never closed"
  | wideBytes => "bytes can only contain ASCII literal characters"
  | mixedTexts => "cannot mix bytes and nonbytes literals"
  | badEscape cause => cause.message
  | indented => "unexpected indent"
  | ungrammatical => ungrammaticalText
  | missingComma => ungrammaticalText ++ ". Perhaps you forgot a comma?"
  | missingElse => "expected 'else' after 'if' expression"
  | missingKeyMark => "':' expected after dictionary key"
  | missingValue => "expression expected after dictionary key and ':'"
  | starredValue => "cannot use a starred expression in a dictionary value"
  | bareCall name =>
    "Missing parentheses in call to '" ++ name ++ "'. Did you mean " ++ name ++ "(...)?"
  | singleEquals => ungrammaticalText ++ ". Maybe you meant '==' or ':=' instead of '='?"
  | equalsBehind noun =>
    "cannot assign to " ++ noun ++ " here. Maybe you meant '==' instead of '='?"
  | noTarget noun => "cannot assign to " ++ noun
  | noNameForValue noun => "cannot use assignment expressions with " ++ noun
  | argumentAssigned =>
    "expression cannot contain assignment, perhaps you meant \"==\"?"
  | bareStar => "Invalid star expression"
  | starredGroup => "cannot use starred expression here"
  | doublyStarredGroup => "cannot use double starred expression here"
  | starredComprehension => "iterable unpacking cannot be used in comprehension"
  | openComprehensionTarget => "did you forget parentheses around the comprehension target?"
  | mappingComprehension => "dict unpacking cannot be used in dict comprehension"
  | openGenerator => "Generator expression must be parenthesized"
  | lateArgument spread =>
    "positional argument follows keyword argument" ++ (if spread then " unpacking" else "")
  | lateSpread => "iterable argument unpacking follows keyword argument unpacking"

end ExpressionFault

/-- Why an expression that is well written is no literal. -/
inductive Refusal where
  /-- Its value would have to be computed. -/
  | computed
  /-- A mapping is spread into another. -/
  | spread
  /-- A key, or a member of a set, that can change. -/
  | unhashable (typeName : String)
  deriving DecidableEq, Repr

def Refusal.message : Refusal → String
  | .computed => "malformed node or string"
  | .spread => "malformed node or string: None"
  | .unhashable typeName => "unhashable type: " ++ inQuotes typeName

end ScriptProfiling
