import ScriptProfiling.Config.Settings
import ScriptProfiling.Monitor
import ScriptProfiling.Report.Data
import ScriptProfiling.Script.Analysis
import ScriptProfiling.Trace

/-!
# Profiling sessions

A session puts the parts together: it loads the scripts, runs the aggregator and the
monitor, and detects and reports on what they have seen. Clock readings and scripts
come from outside and are given to each operation that needs them.
-/
namespace ScriptProfiling

/-- What a source of scripts yields: items, and a fault if it fails after them. -/
structure Feed where
  items : List Value
  fault : Option Fault
  /-- What the source itself reports. -/
  log : List LogEntry
  /-- How deep a value can be written out where the items are taken in. -/
  room : Nat

def Feed.ofValue (room : Nat) (v : Value) : Feed :=
  match v.items with
  | .ok items => ⟨items, none, [], room⟩
  | .error f => ⟨[], some f, [], room⟩

structure Session where
  settings : Settings
  thresholds : Thresholds
  aggregator : Aggregator
  monitor : Monitor
  scripts : Scripts
  issues : List Issue
  active : Bool
  /-- Whether a timer is set that will stop the session. -/
  timer : Bool
  /-- How many sessions have been started. -/
  generation : Nat

structure SessionStatus where
  active : Bool
  load : Value
  scripts : Nat
  records : Nat
  durationMs : Binary64

namespace Session

/-- A session that has not been started. Its settings must hold thresholds. -/
def create (settings : Settings) (sampler : Option (List Sample)) : Except Fault Session := do
  let thresholds ← settings.limits
  return {
    settings := settings
    thresholds := thresholds
    aggregator := .fresh
    monitor := .create sampler settings.sampleInterval.toValue thresholds.lowLoad.toValue
      settings.defaultLoad.toValue
    scripts := .empty
    issues := []
    active := false
    timer := false
    generation := 0 }

def note (message : String) : LogEntry := ⟨.info, .session, message⟩

/-- Puts the scripts of a source in the place of those before. A source that fails, or
that gives what fails, changes nothing. -/
def reload (s : Session) (feed : Feed) : Outcome Session Scripts :=
  match Batch.ofItems feed.room feed.items with
  | (batch, some f) => ⟨.error f, s, feed.log ++ batch.warningLog⟩
  | (batch, none) =>
    match feed.fault with
    | some f => ⟨.error f, s, feed.log ++ batch.warningLog⟩
    | none => ⟨.ok batch.scripts, { s with scripts := batch.scripts },
        feed.log ++ batch.log ++
          [note ("Loaded " ++ wholeText batch.scripts.size ++ " script file(s)")]⟩

/-- Begins a session with the scripts just loaded. -/
def begin (s : Session) (now : Binary64) : Logged Session :=
  let cleared := s.aggregator.reset
  let started := cleared.value.2.start now
  let sampling :=
    if s.settings.loadAware.truthy then s.monitor.start else .silent (false, s.monitor)
  ⟨{ s with
      aggregator := started.value.2
      monitor := sampling.value.2
      issues := []
      active := true
      timer := s.timer || s.settings.maxDuration.gt (.int 0)
      generation := s.generation + 1 },
    cleared.log ++ started.log ++ [note "Profiling session started"] ++ sampling.log⟩

/-- The entry that is made before the scripts are loaded. -/
def opening : LogEntry := note "Starting profiling session..."

/-- Loads the scripts and begins to track; a running session refuses. -/
def start (s : Session) (feed : Feed) (now : Binary64) : Outcome Session Bool :=
  if s.active then ⟨.ok false, s, []⟩
  else
    let loaded := s.reload feed
    match loaded.result with
    | .error f => ⟨.error f, loaded.state, opening :: loaded.log⟩
    | .ok _ =>
      let begun := loaded.state.begin now
      ⟨.ok true, begun.value, opening :: loaded.log ++ begun.log⟩

/-- The session without its tracking and its sampling. -/
def halted (s : Session) (now : Binary64) : Session :=
  { s with aggregator := (s.aggregator.stop now).value.2, monitor := s.monitor.stop.state }

/-- Ends a session. When the sampling cannot be waited for, the session stays active, though
nothing is tracked or sampled any more. -/
def stop (s : Session) (now : Binary64) : Outcome Session Bool :=
  if !s.active then ⟨.ok false, s, []⟩
  else
    let log := note "Stopping profiling session..." :: (s.aggregator.stop now).log
    match s.monitor.stop.result with
    | .error f => ⟨.error f, s.halted now, log⟩
    | .ok _ => ⟨.ok true, { s.halted now with active := false, timer := false },
        log ++ [note "Profiling session stopped"]⟩

/-- A limit in seconds as log entries show it, without fraction. -/
def secondsText (x : Number) : Except Fault String :=
  match x with
  | .int n => wholeTextLimited n
  | .flag b => wholeTextLimited (Number.flagValue b)
  | .float x => x.truncate >>= wholeTextLimited

/-- The entry that a timer makes. None is made if the limit cannot be written. -/
def limitNote (limit : Number) : List LogEntry :=
  match secondsText limit with
  | .ok seconds => [note ("Profiling session reached its " ++ seconds ++ "s limit")]
  | .error _ => []

/-- What a timer does when its time has come. A timer of an earlier session does nothing. -/
def timeout (s : Session) (generation : Int) (now : Binary64) : Outcome Session Unit :=
  if generation ≠ s.generation || !s.active then ⟨.ok (), s, []⟩
  else
    let stopped := s.stop now
    ⟨stopped.result.map fun _ => (), stopped.state,
      limitNote s.settings.maxDuration ++ stopped.log⟩

/-- Drops records, issues and scripts; a running session refuses. -/
def reset (s : Session) : Logged (Bool × Session) :=
  if s.active then .silent (false, s)
  else
    let cleared := s.aggregator.reset
    ⟨(true, { s with aggregator := cleared.value.2, issues := [], scripts := .empty }), cleared.log⟩

def currentLoad (s : Session) : Value := s.monitor.current

/-- The load that detection regards. -/
def watchedLoad (s : Session) : Value :=
  if s.settings.loadAware.truthy then s.currentLoad else .null

/-- A detection pass over the present records. -/
def analyze (s : Session) : Outcome Session (List Issue) :=
  match detect s.aggregator.snapshot s.scripts s.thresholds s.watchedLoad with
  | .error f => ⟨.error f, s, []⟩
  | .ok issues => ⟨.ok issues, { s with issues := issues }, [detectionLog issues]⟩

def reportInput (s : Session) (issues : List Issue) (now : Binary64) : ReportInput where
  metrics := s.aggregator.snapshot
  issues := issues
  scripts := s.scripts
  durationMs := .float (s.aggregator.durationMs now)
  load := s.currentLoad

/-- The outcome of a detection pass, its issues taken further. -/
def afterAnalysis {α : Type} (s : Session) (f : List Issue → Except Fault α) : Outcome Session α :=
  let analyzed := s.analyze
  ⟨analyzed.result >>= f, analyzed.state, analyzed.log⟩

/-- Detects and renders; without records there is a fixed message and no detection. -/
def report (s : Session) (now : Binary64) (detailed : Bool) : Outcome Session String :=
  if s.aggregator.snapshot.isEmpty then ⟨.ok noDataMessage, s, []⟩
  else s.afterAnalysis fun issues =>
    Report.render s.thresholds s.settings.defaultLoad (s.reportInput issues now) detailed

/-- Detects and gives the structured report, also without records. -/
def reportData (s : Session) (now : Binary64) : Outcome Session Json :=
  s.afterAnalysis fun issues => Report.data (s.reportInput issues now)

def status (s : Session) (now : Binary64) : SessionStatus :=
  ⟨s.active, s.currentLoad, s.scripts.size, s.aggregator.recordCount, s.aggregator.durationMs now⟩

end Session
end ScriptProfiling
