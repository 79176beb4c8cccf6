import ScriptProfiling.Number.Reading

/-!
# Command-line arguments

Options may stand before and after other arguments. A long option takes its value
behind an equals sign or from the next argument; short ones may stand together behind
one dash, the value of the last directly behind it or next. Two dashes alone end the
options.
-/
namespace ScriptProfiling
namespace CommandLine

structure OptionSpec where
  field : String
  long : String
  short : Option Char
  takesValue : Bool
  deriving DecidableEq, Repr

/-- What is wrong with the arguments of a call. -/
inductive UsageFault where
  | noCommand
  | unknownCommand (name : String)
  | unknownOption (name : String)
  | missingValue (name : String)
  | unwantedValue (name : String)
  | missing (field : String)
  | extra (argument : String)
  | unusable (field value : String)
  deriving DecidableEq, Repr

def UsageFault.message : UsageFault → String
  | .noCommand => "Missing command."
  | .unknownCommand name => "No such command " ++ inQuotes name ++ "."
  | .unknownOption name => "No such option: " ++ name
  | .missingValue name => "Option " ++ inQuotes name ++ " requires an argument."
  | .unwantedValue name => "Option " ++ inQuotes name ++ " does not take a value."
  | .missing field => "Missing " ++ inQuotes field ++ "."
  | .extra argument => "Got unexpected extra argument (" ++ argument ++ ")"
  | .unusable field value => "Invalid value for " ++ inQuotes field ++ ": " ++ inQuotes value

/-- The fields that options give, with their values, and the other arguments. -/
structure Given where
  options : List (String × String)
  others : List String
  deriving DecidableEq, Repr

namespace Given

def nothing : Given := ⟨[], []⟩

def withOptions (options : List (String × String)) (g : Given) : Given :=
  { g with options := options ++ g.options }

def withOther (argument : String) (g : Given) : Given :=
  { g with others := argument :: g.others }

/-- The value of a field; the last one that is given counts. -/
def value? (g : Given) (field : String) : Option String := g.options.reverse.lookup field

def flag (g : Given) (field : String) : Bool := (g.value? field).isSome

end Given

/-- The fields that one argument gives, and the field whose value is the next argument. -/
abbrev Reading := List (String × String) × Option OptionSpec

/-- Short options behind one dash. -/
def readShort (specs : List OptionSpec) : List Char → Except UsageFault Reading
  | [] => .ok ([], none)
  | c :: cs =>
    match specs.find? (·.short == some c) with
    | none => .error (.unknownOption (String.ofList ['-', c]))
    | some spec =>
      if !spec.takesValue then
        (readShort specs cs).map fun r => ((spec.field, "") :: r.1, r.2)
      else if cs.isEmpty then .ok ([], some spec)
      else .ok ([(spec.field, String.ofList cs)], none)

/-- What stands behind the first equals sign, if there is one. -/
def attachedValue? (cs : List Char) : Option String :=
  match cs.dropWhile (· != '=') with
  | [] => none
  | _ :: value => some (String.ofList value)

def readOption (specs : List OptionSpec) (argument : String) : Except UsageFault Reading :=
  let cs := argument.toList
  let name := String.ofList (cs.takeWhile (· != '='))
  match specs.find? (·.long == name), attachedValue? cs with
  | some spec, some value =>
    if spec.takesValue then .ok ([(spec.field, value)], none)
    else .error (.unwantedValue name)
  | some spec, none =>
    if spec.takesValue then .ok ([], some spec) else .ok ([(spec.field, "")], none)
  | none, _ =>
    if "--".toList.isPrefixOf cs then .error (.unknownOption name)
    else readShort specs (cs.drop 1)

def isOption (argument : String) : Bool :=
  argument.toList.head? == some '-' && 1 < argument.length

/-- Reads all arguments; the option before them may still wait for its value. -/
def readArguments (specs : List OptionSpec) :
    Option OptionSpec → List String → Except UsageFault Given
  | none, [] => .ok .nothing
  | some spec, [] => .error (.missingValue spec.long)
  | some spec, argument :: rest =>
    (readArguments specs none rest).map (·.withOptions [(spec.field, argument)])
  | none, argument :: rest =>
    if argument = "--" then .ok ⟨[], rest⟩
    else if isOption argument then do
      let (options, waiting) ← readOption specs argument
      return (← readArguments specs waiting rest).withOptions options
    else (readArguments specs none rest).map (·.withOther argument)

end CommandLine
end ScriptProfiling
