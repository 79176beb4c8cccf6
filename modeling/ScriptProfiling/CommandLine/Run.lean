import ScriptProfiling.CommandLine.Arguments
import ScriptProfiling.Config.Loading
import ScriptProfiling.Markup.Plain
import ScriptProfiling.Monitor
import ScriptProfiling.Text.ControlSequence
import ScriptProfiling.Text.Wrapping

/-!
# Runs of the program

A run prints lines and makes log entries, and it may end early. What it has printed
and logged by then stays.
-/
namespace ScriptProfiling
namespace CommandLine

/-- How a run ends early. -/
inductive Ending where
  | usage (fault : UsageFault)
  /-- The reason has been printed. -/
  | failed
  | fault (f : Fault)

def Ending.code : Ending → Nat
  | .usage _ => 2
  | .failed | .fault _ => 1

structure Run (α : Type) where
  result : Except Ending α
  output : List String
  log : List LogEntry

namespace Run

variable {α β : Type}

def done (x : α) : Run α := ⟨.ok x, [], []⟩

def andThen (r : Run α) (f : α → Run β) : Run β :=
  match r.result with
  | .error e => ⟨.error e, r.output, r.log⟩
  | .ok x =>
    let next := f x
    ⟨next.result, r.output ++ next.output, r.log ++ next.log⟩

instance : Monad Run where
  pure := done
  bind := andThen

def ending (e : Ending) : Run α := ⟨.error e, [], []⟩

def print (lines : List String) : Run Unit := ⟨.ok (), lines, []⟩

def ofResult (result : Except Fault α) : Run α := ⟨result.mapError .fault, [], []⟩

def ofUsage (result : Except UsageFault α) : Run α := ⟨result.mapError .usage, [], []⟩

/-- A result with the entries that were made on the way to it. -/
def logged (result : Except Fault α) (log : List LogEntry) : Run α :=
  ⟨result.mapError .fault, [], log⟩

/-- An operation on a state as a part of a run. -/
def ofOutcome {σ : Type} (o : Outcome σ α) : Run (α × σ) :=
  logged (o.result.map (·, o.state)) o.log

/-- The exit code of a run. -/
def code (r : Run α) : Nat :=
  match r.result with
  | .ok _ => 0
  | .error e => e.code

end Run

/-- The width of the console. -/
def consoleWidth : Nat := 2000

/-- The lines that the console shows for some markup. -/
def consoleLines (markup : String) : Except Fault (List String) := do
  let lines := wrapLines consoleWidth (← stripChars markup.toList)
  return lines.map fun l => String.ofList (cutExcess consoleWidth l)

def printMarkup (markup : String) : Run Unit := do Run.print (← Run.ofResult (consoleLines markup))

/-- Prints text that is no markup. -/
def echo (text : String) : Run Unit :=
  Run.print (splitLines (String.ofList (dropSequences text.toList)))

/-- How a failure is announced. -/
def announcement (message : String) : String := "[red]Error:[/red] " ++ message

/-- Whether a fault is one that the profiler raises on purpose. -/
def isFailure (f : Fault) : Bool :=
  match f with
  | .failure _ => true
  | _ => false

/-- Settings for a run; a failure to load them is shown and ends the run. -/
def configure (w : Surroundings) (named : Option String) (overrides : Settings.Arguments) :
    Run Settings :=
  match Settings.load w named overrides with
  | .ok s => Run.done s
  | .error f =>
    if isFailure f then do
      printMarkup (announcement f.message)
      Run.ending .failed
    else Run.ending (.fault f)

end CommandLine
end ScriptProfiling
