import ScriptProfiling.Value

/-!
# Failures of profiling

The failures that the profiler raises on purpose form a small hierarchy. Context
is kept in named details, which the full text appends to the message.
-/
namespace ScriptProfiling

inductive FailureKind where
  | profiling
  | analysis
  | scriptRead
  | traceFormat
  | configuration
  | invalidSetting
  deriving DecidableEq, Repr

/-- The next more general kind. -/
def FailureKind.parent? : FailureKind → Option FailureKind
  | .profiling => none
  | .analysis => some .profiling
  | .scriptRead => some .analysis
  | .traceFormat => some .analysis
  | .configuration => some .profiling
  | .invalidSetting => some .configuration

inductive Failure where
  | profiling (message : Value) (details : List (String × Value))
  | analysis (message : Value) (details : List (String × Value))
  | configuration (message : Value) (details : List (String × Value))
  | scriptRead (path reason : Value)
  | traceFormat (line reason : Value)
  | invalidSetting (key value reason : Value)

namespace Failure

def kind : Failure → FailureKind
  | .profiling .. => .profiling
  | .analysis .. => .analysis
  | .configuration .. => .configuration
  | .scriptRead .. => .scriptRead
  | .traceFormat .. => .traceFormat
  | .invalidSetting .. => .invalidSetting

/-- The message, which is a text unless a host has given something else. -/
def message : Failure → Value
  | .profiling m _ | .analysis m _ | .configuration m _ => m
  | .scriptRead path _ => .text ("Cannot read script: " ++ path.display)
  | .traceFormat line _ => .text ("Malformed trace entry on line " ++ line.display)
  | .invalidSetting key value _ =>
    .text ("Invalid configuration for " ++ key.display ++ ": " ++ value.display)

def details : Failure → List (String × Value)
  | .profiling _ details | .analysis _ details | .configuration _ details => details
  | .scriptRead path reason => [("filepath", .text path.display), ("reason", reason)]
  | .traceFormat line reason => [("line", .text line.display), ("reason", reason)]
  | .invalidSetting key value reason =>
    [("key", key), ("value", .text value.display), ("reason", reason)]

/-- The facts that a failure of its kind is built from. -/
def attributes : Failure → List (String × Value)
  | .profiling .. | .analysis .. | .configuration .. => []
  | .scriptRead path reason => [("filepath", path), ("reason", reason)]
  | .traceFormat line reason => [("line_number", line), ("reason", reason)]
  | .invalidSetting key value reason => [("key", key), ("value", value), ("reason", reason)]

/-- The message, followed by the details in brackets if there are any. -/
def text (f : Failure) : String :=
  if f.details.isEmpty then f.message.display
  else f.message.display ++ " (" ++
    ", ".intercalate (f.details.map fun d => d.1 ++ "=" ++ d.2.display) ++ ")"

end Failure
end ScriptProfiling
