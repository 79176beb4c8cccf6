import ScriptProfiling.Failure
import ScriptProfiling.Literal.Fault
import ScriptProfiling.Text.Utf8

/-!
# Faults

Everything that can stop an operation, by cause. A fault's class says which callers
may recover from it; its message is the text that users read.
-/
namespace ScriptProfiling

inductive FaultClass where
  /-- A value of the right kind outside the allowed ones. -/
  | badValue
  /-- A value of the wrong kind. -/
  | wrongType
  | overflow
  | missingAttribute
  | undecodable
  | fileNotFound
  | isFolder
  | notFolder
  | fileSystem
  | badMarkup
  /-- No room is left on the stack. -/
  | recursion
  /-- Raised by a host's own code. -/
  | host
  | failure (kind : FailureKind)
  deriving DecidableEq, Repr

inductive FileCause where
  | missing
  | isFolder
  | notFolder
  | nameTooLong
  | nulByte
  deriving DecidableEq, Repr

def FileCause.code : FileCause → Nat
  | .missing => 2
  | .isFolder => 21
  | .notFolder => 20
  | .nameTooLong => 36
  | .nulByte => 22

def FileCause.message : FileCause → String
  | .missing => "No such file or directory"
  | .isFolder => "Is a directory"
  | .notFolder => "Not a directory"
  | .nameTooLong => "File name too long"
  | .nulByte => "embedded null byte"

def FileCause.cls : FileCause → FaultClass
  | .missing => .fileNotFound
  | .isFolder => .isFolder
  | .notFolder => .notFolder
  | .nameTooLong => .fileSystem
  | .nulByte => .badValue

/-- What is told about a file, whose path is already quoted. -/
def FileCause.text (cause : FileCause) (quotedPath : String) : String :=
  if cause = .nulByte then cause.message
  else "[Errno " ++ wholeText cause.code ++ "] " ++ cause.message ++ ": " ++ quotedPath

inductive MarkupFault where
  | unmatched (body : String) (position : Nat)
  | nothingOpen (position : Nat)
  /-- The parameters of a handler, of which a part is no expression. -/
  | badParameters (parameters part : String) (cause : ExpressionFault)
  /-- The parameters of a handler, which are no literal. -/
  | openParameters (parameters : String) (cause : Refusal)
  deriving DecidableEq, Repr

def MarkupFault.message : MarkupFault → String
  | .unmatched body position =>
    "closing tag '[" ++ body ++ "]' at position " ++ wholeText position ++
      " doesn't match any open tag"
  | .nothingOpen position =>
    "closing tag '[/]' at position " ++ wholeText position ++ " has nothing to close"
  | .badParameters parameters part cause =>
    "error parsing " ++ quoted part ++ " in " ++ quoted parameters ++ "; " ++ cause.message
  | .openParameters parameters cause =>
    "error parsing " ++ quoted parameters ++ "; " ++ cause.message

inductive Fault where
  | quotientTooLarge
  | wholeTooLarge
  | notANumber
  | infiniteWhole
  /-- A numeral to be read with more digits than the limit. -/
  | numeralTooLong (digits : Nat)
  /-- A number to be written with more digits than the limit. -/
  | numberTooLong
  /-- A value to be written whose parts lie inside each other too deeply. -/
  | tooDeep
  /-- A time that the clock of threads has no room for. -/
  | timeTooLong
  | timeNotANumber
  | notWhole (written : String)
  | notNumeric (written : String)
  | notFinite (written : String)
  | wholeFrom (typeName : String)
  | numberFrom (typeName : String)
  | realNumber (typeName : String)
  | incomparable (relation left right : String)
  /-- A value that nothing of the other kind can be added to in place. -/
  | notAddable (left right : String)
  /-- Two values that have no sum. -/
  | noSum (left right : String)
  /-- A sequence that only its own kind can be appended to. -/
  | notJoinable (typeName other : String)
  | badSliceBound
  | notIterable (typeName : String)
  | notUnpackable (typeName : String)
  | tooFewToUnpack (found : Nat)
  | tooManyToUnpack
  | notAMapping (typeName : String)
  | noAttribute (typeName name : String)
  | wrongPrefixType
  | notAPath (typeName : String)
  | unexpectedKeyword (operation keyword : String)
  /-- A keyword that gives the owner itself a second time. -/
  | repeatedKeyword (operation keyword : String)
  | missingArguments (operation : String) (names : List String)
  /-- More arguments than the most that an operation takes, the owner counted. -/
  | surplusArguments (operation : String) (fewest most given : Nat)
  /-- An entry of a mapping, by its place, that has no items. -/
  | entryNotSequence (place : Nat)
  | entryLength (place found : Nat)
  | unhashable (typeName : String)
  /-- A message that is no text where one has to be shown. -/
  | messageNotText (typeName : String)
  /-- A setting outside its bounds, with the rule that it breaks. -/
  | outOfBounds (rule : String)
  | notBoolean (written : String)
  | syntaxError (message : String)
  | undecodable (error : Utf8Error)
  | file (cause : FileCause) (path : String)
  | fileByBytes (cause : FileCause) (path : List UInt8)
  /-- A home folder that is given in terms of itself. -/
  | noHome
  /-- A value of a type that data does not have. -/
  | notData (typeName : String)
  | markup (cause : MarkupFault)
  | host (message : String)
  | failure (cause : Failure)

/-- Names in a row, the last one behind a conjunction. -/
def namesText : List String → String
  | [] => ""
  | [name] => name
  | [first, second] => first ++ " and " ++ second
  | name :: names =>
    ", ".intercalate (name :: names.dropLast) ++ ", and " ++ (names.getLast?).getD ""

namespace Fault

def cls : Fault → FaultClass
  | quotientTooLarge | wholeTooLarge | infiniteWhole | timeTooLong => .overflow
  | tooDeep => .recursion
  | notANumber | timeNotANumber | numeralTooLong _ | numberTooLong | notWhole _ | notNumeric _
  | notFinite _ | tooFewToUnpack _ | tooManyToUnpack | outOfBounds _ | notBoolean _ | syntaxError _
  | entryLength .. => .badValue
  | wholeFrom _ | numberFrom _ | realNumber _ | incomparable .. | notAddable .. | noSum ..
  | notJoinable .. | badSliceBound | notIterable _ | notUnpackable _ | notAMapping _
  | wrongPrefixType | notAPath _ | unexpectedKeyword .. | repeatedKeyword .. | missingArguments ..
  | surplusArguments ..
  | entryNotSequence _ | unhashable _ | messageNotText _ | notData _ => .wrongType
  | noAttribute .. => .missingAttribute
  | undecodable _ => .undecodable
  | file cause _ | fileByBytes cause _ => cause.cls
  | markup _ => .badMarkup
  | host _ | noHome => .host
  | failure cause => .failure cause.kind

def undecodableText (e : Utf8Error) : String :=
  "'utf-8' codec can't decode " ++
    (if e.length = 1 then
      "byte 0x" ++ String.ofList (hexDigits 2 e.first.toNat) ++ " in position " ++ wholeText e.start
    else "bytes in position " ++ wholeText e.start ++ "-" ++
      wholeText ((e.start + e.length : Nat) - 1)) ++
    ": " ++ e.cause.message

/-- Says that an operator does not take operands of some kinds. -/
def operandsText (operator left right : String) : String :=
  "unsupported operand type(s) for " ++ operator ++ ": " ++ inQuotes left ++ " and " ++
    inQuotes right

def message : Fault → String
  | quotientTooLarge => "integer division result too large for a float"
  | wholeTooLarge => "int too large to convert to float"
  | notANumber => "cannot convert float NaN to integer"
  | tooDeep => "maximum recursion depth exceeded while getting the repr of an object"
  | timeTooLong => "timestamp out of range for platform time_t"
  | timeNotANumber => "Invalid value NaN (not a number)"
  | infiniteWhole => "cannot convert float infinity to integer"
  | numeralTooLong digits => longNumeralText digits
  | numberTooLong => digitLimitText ++ "; use sys.set_int_max_str_digits() to increase the limit"
  | notWhole written => "invalid literal for int() with base 10: " ++ written
  | notNumeric written => "could not convert string to float: " ++ written
  | notFinite written => "not a finite number: " ++ written
  | wholeFrom typeName =>
    "int() argument must be a string, a bytes-like object or a real number, not " ++
      inQuotes typeName
  | numberFrom typeName =>
    "float() argument must be a string or a real number, not " ++ inQuotes typeName
  | realNumber typeName => "must be real number, not " ++ typeName
  | incomparable relation left right =>
    inQuotes relation ++ " not supported between instances of " ++ inQuotes left ++ " and " ++
      inQuotes right
  | notAddable left right => operandsText "+=" left right
  | noSum left right => operandsText "+" left right
  | notJoinable typeName other =>
    if typeName = "bytes" then "can't concat " ++ other ++ " to bytes"
    else "can only concatenate " ++ typeName ++ " (not \"" ++ other ++ "\") to " ++ typeName
  | badSliceBound => "slice indices must be integers or None or have an __index__ method"
  | notIterable typeName => inQuotes typeName ++ " object is not iterable"
  | notUnpackable typeName => "cannot unpack non-iterable " ++ typeName ++ " object"
  | tooFewToUnpack found =>
    "not enough values to unpack (expected 2, got " ++ wholeText found ++ ")"
  | tooManyToUnpack => "too many values to unpack (expected 2)"
  | notAMapping typeName => inQuotes typeName ++ " object is not a mapping"
  | noAttribute typeName name =>
    inQuotes typeName ++ " object has no attribute " ++ inQuotes name
  | wrongPrefixType => "startswith first arg must be bytes or a tuple of bytes, not str"
  | notAPath typeName => "expected str, bytes or os.PathLike object, not " ++ typeName
  | repeatedKeyword operation keyword =>
    operation ++ "() got multiple values for argument " ++ inQuotes keyword
  | unexpectedKeyword operation keyword =>
    operation ++ "() got an unexpected keyword argument " ++ inQuotes keyword
  | missingArguments operation names =>
    operation ++ "() missing " ++ wholeText names.length ++ " required positional argument" ++
      (if names.length = 1 then "" else "s") ++ ": " ++ namesText (names.map inQuotes)
  | surplusArguments operation fewest most given =>
    operation ++ "() takes " ++
      (if fewest = most then "" else "from " ++ wholeText fewest ++ " to ") ++ wholeText most ++
      " positional arguments but " ++ wholeText given ++ " were given"
  | entryNotSequence place =>
    "cannot convert dictionary update sequence element #" ++ wholeText place ++ " to a sequence"
  | entryLength place found =>
    "dictionary update sequence element #" ++ wholeText place ++ " has length " ++
      wholeText found ++ "; 2 is required"
  | unhashable typeName => "unhashable type: " ++ inQuotes typeName
  | messageNotText typeName => "__str__ returned non-string (type " ++ typeName ++ ")"
  | outOfBounds rule => rule
  | notBoolean written => "expected true/false, got " ++ inQuotes written
  | syntaxError text => text
  | undecodable e => undecodableText e
  | file cause path => cause.text (quoted path)
  | fileByBytes cause path => cause.text (quotedBytes path)
  | noHome => "Could not determine home directory."
  | notData typeName => "Object of type " ++ typeName ++ " is not JSON serializable"
  | markup cause => cause.message
  | host text => text
  | failure cause => cause.text

/-- A value, or a value of the wrong kind, that its reader refuses. -/
def isRefusal (f : Fault) : Bool := match f.cls with
  | .badValue | .wrongType | .undecodable => true
  | _ => false

/-- A file that cannot be reached or opened. -/
def isFileFault (f : Fault) : Bool := match f.cls with
  | .fileNotFound | .isFolder | .notFolder | .fileSystem => true
  | _ => false

end Fault

/-- A script that cannot be read, for a stated reason. -/
def Fault.scriptRead (path reason : String) : Fault :=
  .failure (.scriptRead (.text path) (.text reason))

def Fault.traceFormat (line : Nat) (reason : String) : Fault :=
  .failure (.traceFormat (.int line) (.text reason))

/-- The name under which an owner is given to its own construction. -/
def receiverName : String := "self"

/-- The operation that makes an owner. -/
def constructionOf (owner : String) : String := owner ++ ".__init__"

/-- The fault in the first argument that an owner does not take. -/
def Fault.ofKeyword (owner keyword : String) : Fault :=
  if keyword = receiverName then .repeatedKeyword (constructionOf owner) keyword
  else .unexpectedKeyword (constructionOf owner) keyword

def Fault.configuration (message : String) : Fault :=
  .failure (.configuration (.text message) [])

end ScriptProfiling
