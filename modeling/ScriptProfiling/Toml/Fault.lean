import ScriptProfiling.Fault

/-!
# Faults in configuration files

A fault names what is wrong and where, the place being given by how many characters
of the document are left.
-/
namespace ScriptProfiling
namespace Toml

abbrev Key := List String

def keyText (key : Key) : String := (Value.tuple (key.map .text)).literal

inductive Problem where
  | invalidStatement
  | expectedNewline
  | declaredTwice (key : Key)
  | immutable (key : Key)
  | overwrites
  | expectedTableEnd
  | expectedArrayEnd
  | redefined (key : Key)
  | expectedEquals
  | invalidKeyStart
  | unclosedArray
  | unclosedTable
  | duplicateKey (name : String)
  | badEscape
  | badHex
  | noScalar
  | expectedMark (mark : String)
  | foundInvalid (c : Char)
  | unterminated
  | illegal (c : Char)
  | invalidDate
  | invalidValue
  deriving DecidableEq, Repr

def Problem.message : Problem → String
  | .invalidStatement => "Invalid statement"
  | .expectedNewline => "Expected newline or end of document after a statement"
  | .declaredTwice key => "Cannot declare " ++ keyText key ++ " twice"
  | .immutable key => "Cannot mutate immutable namespace " ++ keyText key
  | .overwrites => "Cannot overwrite a value"
  | .expectedTableEnd => "Expected ']' at the end of a table declaration"
  | .expectedArrayEnd => "Expected ']]' at the end of an array declaration"
  | .redefined key => "Cannot redefine namespace " ++ keyText key
  | .expectedEquals => "Expected '=' after a key in a key/value pair"
  | .invalidKeyStart => "Invalid initial character for a key part"
  | .unclosedArray => "Unclosed array"
  | .unclosedTable => "Unclosed inline table"
  | .duplicateKey name => "Duplicate inline table key " ++ quoted name
  | .badEscape => "Unescaped '\\' in a string"
  | .badHex => "Invalid hex value"
  | .noScalar => "Escaped character is not a Unicode scalar value"
  | .expectedMark mark => "Expected " ++ quoted mark
  | .foundInvalid c => "Found invalid character " ++ quoted (String.singleton c)
  | .unterminated => "Unterminated string"
  | .illegal c => "Illegal character " ++ quoted (String.singleton c)
  | .invalidDate => "Invalid date or datetime"
  | .invalidValue => "Invalid value"

inductive TomlFault where
  | problem (p : Problem) (left : Nat)
  /-- A whole number beyond the limit of digits, which is no fault of the format. -/
  | numeralTooLong (digits : Nat)
  deriving DecidableEq, Repr

/-- The place in a document at which so many characters are left. -/
def placeText (document : List Char) (left : Nat) : String :=
  if left = 0 then "end of document"
  else
    let before := document.take (document.length - left)
    let line := before.count '\n' + 1
    let column := (before.reverse.takeWhile (· != '\n')).length + 1
    "line " ++ wholeText line ++ ", column " ++ wholeText column

def TomlFault.toFault (document : List Char) : TomlFault → Fault
  | .problem p left => .syntaxError (p.message ++ " (at " ++ placeText document left ++ ")")
  | .numeralTooLong digits => .numeralTooLong digits

/-- A fault at the place from which the given rest goes on. -/
def failAt {α : Type} (p : Problem) (rest : List Char) : Except TomlFault α :=
  .error (.problem p rest.length)

end Toml
end ScriptProfiling
