import ScriptProfiling.Config.Settings
import ScriptProfiling.Number.Reading
import ScriptProfiling.Text.Lowercase

/-!
# Settings from the environment

Each scalar setting has a variable of its own, named after it in capitals.
-/
namespace ScriptProfiling

/-- The kinds of settings as far as a variable's text is concerned. -/
inductive SettingKind where
  | flag
  | whole
  | decimal
  | text
  | choice
  | table
  deriving DecidableEq, Repr

def Settings.fieldKinds : List (String × SettingKind) :=
  [("scripts_dir", .text), ("script_extension", .text), ("load_aware", .flag),
   ("load_sample_interval_seconds", .decimal), ("default_load", .decimal),
   ("max_duration_seconds", .whole), ("report_format", .choice), ("thresholds", .table)]

def Thresholds.fieldKinds : List (String × SettingKind) :=
  [("slow_execution_ms", .decimal), ("very_slow_execution_ms", .decimal),
   ("high_frequency_count", .whole), ("high_frequency_total_ms", .decimal),
   ("loop_iteration_count", .whole), ("long_wait_ticks", .whole),
   ("excessive_variable_count", .whole), ("low_load_threshold", .decimal),
   ("max_reported_issues", .whole), ("top_slowest_count", .whole), ("include_suggestions", .flag)]

namespace Environment

def yesWords : List String := ["true", "1", "yes", "on"]
def noWords : List String := ["false", "0", "no", "off"]

def parseFlag (s : String) : Except Fault Bool :=
  let word := lowercaseText s
  if yesWords.contains word then .ok true
  else if noWords.contains word then .ok false
  else .error (.notBoolean s)

/-- The value that a variable's text gives; a table has none. -/
def parse (s : String) : SettingKind → Except Fault (Option Value)
  | .flag => (parseFlag s).map fun b => some (.bool b)
  | .whole => (parseWhole s).map fun n => some (.int n)
  | .decimal => (parseFloat s).map fun x => some (.float x)
  | .text | .choice => .ok (some (.text s))
  | .table => .ok none

abbrev Variables := List (String × String)

def settingPrefix : String := "SKPROFILE_"
def thresholdPrefix : String := "SKPROFILE_THRESHOLDS_"

def variableName (start name : String) : String :=
  start ++ String.ofList (name.toList.map Char.toUpper)

/-- One setting, if its variable is set and gives a value. -/
def readField (vars : Variables) (start : String) (field : String × SettingKind) :
    Except Fault (Option (String × Value)) :=
  let name := variableName start field.1
  match vars.lookup name with
  | none => .ok none
  | some text =>
    match parse text field.2 with
    | .ok value => .ok (value.map (field.1, ·))
    | .error f =>
      .error (.failure (.invalidSetting (.text name) (.text text) (.text f.message)))

def readFields (vars : Variables) (start : String) (fields : List (String × SettingKind)) :
    Except Fault (List (String × Value)) :=
  (fields.mapM (readField vars start)).map fun found => found.filterMap id

end Environment
end ScriptProfiling
