import ScriptProfiling.Config.Thresholds

/-!
# Settings

The settings of a profiling session. They are checked when they are put together.
-/
namespace ScriptProfiling

/-- A setting as it comes from a source: a value, or thresholds that are complete. -/
inductive Setting where
  | value (v : Value)
  | thresholds (t : Thresholds)

namespace Setting

def typeName : Setting → String
  | .value v => v.typeName
  | .thresholds _ => "ThresholdConfig"

def number? : Setting → Option Number
  | .value v => v.number?
  | .thresholds _ => none

/-- The setting as a plain value; thresholds become a table. -/
def toValue : Setting → Value
  | .value v => v
  | .thresholds t => .table t.fields

end Setting

/-- Where reports go. -/
inductive ReportFormat where
  | sender
  | console
  | both
  deriving DecidableEq, Repr

namespace ReportFormat

def name : ReportFormat → String
  | .sender => "sender"
  | .console => "console"
  | .both => "both"

def all : List ReportFormat := [.sender, .console, .both]

def ofName? (s : String) : Option ReportFormat := all.find? (·.name == s)

def logged (f : ReportFormat) : Bool := f != .sender

end ReportFormat

structure Settings where
  scriptsDir : Value
  scriptExtension : String
  loadAware : Value
  sampleInterval : Number
  defaultLoad : Number
  maxDuration : Number
  reportFormat : ReportFormat
  thresholds : Setting

namespace Settings

def default : Settings where
  scriptsDir := .text "plugins/Skript/scripts"
  scriptExtension := ".sk"
  loadAware := .bool true
  sampleInterval := wholeFloat 1
  defaultLoad := wholeFloat 20
  maxDuration := .int 0
  reportFormat := .both
  thresholds := .thresholds .default

instance : Inhabited Settings := ⟨default⟩

/-- All settings by name, in their order. -/
def fields (s : Settings) : List (String × Setting) :=
  [("scripts_dir", .value s.scriptsDir),
   ("script_extension", .value (.text s.scriptExtension)),
   ("load_aware", .value s.loadAware),
   ("load_sample_interval_seconds", .value s.sampleInterval.toValue),
   ("default_load", .value s.defaultLoad.toValue),
   ("max_duration_seconds", .value s.maxDuration.toValue),
   ("report_format", .value (.text s.reportFormat.name)),
   ("thresholds", s.thresholds)]

def fieldNames : List String := default.fields.map Prod.fst

abbrev Arguments := List (String × Setting)

def argument (args : Arguments) (name : String) : Setting :=
  match args.lookup name with
  | some v => v
  | none => (default.fields.lookup name).getD (.value .null)

def extensionOf (s : Setting) : Except Fault String :=
  match s with
  | .value (.text text) =>
    if text.toList.head? = some '.' then .ok text
    else .error (.outOfBounds "script_extension must start with '.'")
  | .value (.bytes _) => .error .wrongPrefixType
  | s => .error (.noAttribute s.typeName "startswith")

def comparable (relation : String) (args : Arguments) (name : String) : Except Fault Number :=
  let s := argument args name
  match s.number? with
  | some x => .ok x
  | none => .error (.incomparable relation s.typeName "int")

def notNegative (args : Arguments) (name : String) : Except Fault Number := do
  let x ← comparable "<" args name
  Thresholds.require (!x.lt (.int 0)) (name ++ " must be non-negative")
  return x

def positive (args : Arguments) (name : String) : Except Fault Number := do
  let x ← comparable "<=" args name
  Thresholds.require (!x.le (.int 0)) (name ++ " must be positive")
  return x

def formatOf (s : Setting) : Except Fault ReportFormat :=
  let found? := match s with
    | .value (.text name) => ReportFormat.ofName? name
    | _ => none
  match found? with
  | some f => .ok f
  | none => .error (.outOfBounds ("report_format must be one of " ++
      ", ".intercalate (ReportFormat.all.map ReportFormat.name)))

/-- Settings from arguments and defaults, checked in the order of the fields. -/
def ofArguments (args : Arguments) : Except Fault Settings := do
  if let some (name, _) := args.find? fun a => !fieldNames.contains a.1 then
    throw (.ofKeyword "ProfilerConfig" name)
  let ext ← extensionOf (argument args "script_extension")
  let interval ← positive args "load_sample_interval_seconds"
  let load ← notNegative args "default_load"
  let duration ← notNegative args "max_duration_seconds"
  let format ← formatOf (argument args "report_format")
  return {
    scriptsDir := (argument args "scripts_dir").toValue
    scriptExtension := ext
    loadAware := (argument args "load_aware").toValue
    sampleInterval := interval
    defaultLoad := load
    maxDuration := duration
    reportFormat := format
    thresholds := argument args "thresholds" }

/-- The thresholds to detect with. -/
def limits (s : Settings) : Except Fault Thresholds :=
  match s.thresholds with
  | .thresholds t => .ok t
  | .value v => .error (.noAttribute v.typeName "low_load_threshold")

end Settings
end ScriptProfiling
