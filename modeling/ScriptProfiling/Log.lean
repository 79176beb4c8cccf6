/-!
# Log entries

What happened during an operation, in order. Each entry names the component that
reports it.
-/
namespace ScriptProfiling

inductive Level where
  | debug
  | info
  | warning
  | error
  deriving DecidableEq, Repr

namespace Level

def name : Level → String
  | .debug => "DEBUG"
  | .info => "INFO"
  | .warning => "WARNING"
  | .error => "ERROR"

/-- The more urgent, the larger. -/
def rank : Level → Nat
  | .debug => 10
  | .info => 20
  | .warning => 30
  | .error => 40

end Level

inductive Component where
  | analyzer
  | loader
  | aggregator
  | trace
  | detector
  | monitor
  | session
  | commands
  deriving DecidableEq, Repr

/-- The name under which all components report. -/
def packageName : String := "skript_profiler"

def Component.name : Component → String
  | .analyzer => packageName ++ ".scanning.analyzer"
  | .loader => packageName ++ ".scanning.loader"
  | .aggregator => packageName ++ ".tracking.aggregator"
  | .trace => packageName ++ ".tracking.trace"
  | .detector => packageName ++ ".insights.detector"
  | .monitor => packageName ++ ".monitor"
  | .session => packageName ++ ".session"
  | .commands => packageName ++ ".commands"

structure LogEntry where
  level : Level
  component : Component
  message : String
  deriving DecidableEq, Repr

def LogEntry.padded (width : Nat) (s : String) : String :=
  s ++ String.ofList (List.replicate (width - s.length) ' ')

/-- The entry as a log file keeps it, without the time. -/
def LogEntry.fileLine (e : LogEntry) : String :=
  padded 8 e.level.name ++ " " ++ e.component.name ++ ": " ++ e.message

/-- What a log file holds of some entries that were made at the given time. -/
def LogEntry.fileText (stamp : String) (log : List LogEntry) : String :=
  String.join (log.map fun e => stamp ++ " " ++ e.fileLine ++ "\n")

/-- A result and what was reported on the way to it. -/
structure Logged (α : Type) where
  value : α
  log : List LogEntry

namespace Logged

variable {α β : Type}

def silent (value : α) : Logged α := ⟨value, []⟩

def report (level : Level) (component : Component) (message : String) : Logged Unit :=
  ⟨(), [⟨level, component, message⟩]⟩

def andThen (x : Logged α) (f : α → Logged β) : Logged β :=
  let y := f x.value
  ⟨y.value, x.log ++ y.log⟩

instance : Monad Logged where
  pure := silent
  bind := andThen

@[simp] theorem value_pure (x : α) : (pure x : Logged α).value = x := rfl
@[simp] theorem log_pure (x : α) : (pure x : Logged α).log = [] := rfl
@[simp] theorem value_bind (x : Logged α) (f : α → Logged β) :
    (x >>= f).value = (f x.value).value := rfl
@[simp] theorem log_bind (x : Logged α) (f : α → Logged β) :
    (x >>= f).log = x.log ++ (f x.value).log := rfl

end Logged
end ScriptProfiling
