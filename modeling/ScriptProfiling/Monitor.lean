import ScriptProfiling.Load
import ScriptProfiling.Log
import ScriptProfiling.Number.Reading
import ScriptProfiling.Value.Writing

/-!
# The load monitor

The monitor keeps the last usable load. Loads are pushed by the host or polled from a
sampler; what is no load leaves the last one standing.

A thread polls the sampler and waits for an interval after each sample. The clock of threads
counts nanoseconds in 64 bits, so an interval may be too long to wait for, which ends the
thread. Whoever stops the thread waits for its end, up to a second longer than the interval,
and fails when that is too long for the clock.
-/
namespace ScriptProfiling

/-- What an operation on a state comes to. The state may change even if it fails. -/
structure Outcome (σ α : Type) where
  result : Except Fault α
  state : σ
  log : List LogEntry

/-- What a sampler does when it is asked once. -/
inductive Sample where
  | value (v : Value)
  | raises (message : String)

/-- What the thread does that takes samples in the background. -/
inductive Sampling where
  | idle
  | underWay
  /-- A fault has ended it. Nobody has to know until the thread is looked at. -/
  | ended (noticed : Bool)
  deriving DecidableEq, Repr

structure Monitor where
  /-- The samples to come, if there is a sampler. It has none to give after them. -/
  sampler : Option (List Sample)
  /-- The seconds between two samples. -/
  interval : Value
  threshold : Value
  current : Value
  sampling : Sampling

def nanosPerSecond : Int := 1000000000

/-- The least count of nanoseconds that the clock of threads has no room for. -/
def clockLimit : Int := 9223372036854775808

/-- Whether the clock of threads has room for a time in seconds that is not negative. -/
def fitsClock (seconds : Number) : Bool :=
  match seconds with
  | .float x => (Number.float (x * .ofIntNearest nanosPerSecond)).lt (.int clockLimit)
  | .int n => n * nanosPerSecond < clockLimit
  | .flag _ => true

namespace Monitor

def create (sampler : Option (List Sample)) (interval threshold default : Value) : Monitor :=
  ⟨sampler, interval, threshold, default, .idle⟩

def argumentNames : List String := ["interval_seconds", "low_threshold", "default_load"]

/-- A monitor from named arguments and defaults. -/
def ofArguments (sampler : Option (List Sample)) (args : List (String × Value)) :
    Except Fault Monitor :=
  let argument (name : String) (default : Nat) : Value :=
    (args.lookup name).getD (.float (.nearest false default 1))
  match args.find? fun a => !argumentNames.contains a.1 with
  | some (name, _) => .error (.ofKeyword "LoadMonitor" name)
  | none => .ok (create sampler (argument "interval_seconds" 1) (argument "low_threshold" 18)
      (argument "default_load" 20))

/-- Whether samples are taken in the background. -/
def running (m : Monitor) : Bool := m.sampling = .underWay

/-- The monitor after somebody has asked whether samples are taken. -/
def noticed (m : Monitor) : Monitor :=
  match m.sampling with
  | .ended _ => { m with sampling := .ended true }
  | _ => m

/-- The entry for a value that is no load. None is made if the value cannot be written. -/
def ignored (kind : String) (v : Value) : List LogEntry :=
  match v.written v.nesting with
  | .ok written => [⟨.debug, .monitor, "Ignoring " ++ kind ++ " load sample " ++ written⟩]
  | .error _ => []

/-- The warning of a low load. None is made if the threshold cannot be written. -/
def lowWarning (load : Binary64) (threshold : Number) : List LogEntry :=
  match threshold.hundredths with
  | .ok limit => [⟨.warning, .monitor, "Low TPS detected: " ++ load.fixedText 2 ++
      " (threshold: " ++ limit ++ ")"⟩]
  | .error _ => []

/-- Keeps a load and warns when it is low. -/
def accept (m : Monitor) (load : Binary64) : Outcome Monitor Value :=
  let m := { m with current := .float load }
  match m.threshold.number? with
  | none => ⟨.error (.incomparable "<" "float" m.threshold.typeName), m, []⟩
  | some limit =>
    ⟨.ok (.float load), m, if (Number.float load).lt limit then lowWarning load limit else []⟩

/-- Takes a value from the host; the result is the load that stands. -/
def update (m : Monitor) (v : Value) : Outcome Monitor Value :=
  match v.toFloat with
  | .error f =>
    if f.isRefusal then ⟨.ok m.current, m, ignored "non-numeric" v⟩ else ⟨.error f, m, []⟩
  | .ok load =>
    if isUsableFloat load then m.accept load else ⟨.ok m.current, m, ignored "invalid" v⟩

def nextSample : List Sample → Sample × List Sample
  | [] => (.value .null, [])
  | s :: rest => (s, rest)

/-- Asks the sampler once. -/
def sample (m : Monitor) : Outcome Monitor Value :=
  match m.sampler with
  | none => ⟨.ok m.current, m, []⟩
  | some samples =>
    let (next, rest) := nextSample samples
    let m := { m with sampler := some rest }
    match next with
    | .value v => m.update v
    | .raises message => ⟨.ok m.current, m,
        [⟨.debug, .monitor, "Load sampling failed, keeping last value: " ++ message⟩]⟩

/-- Whether a thread can wait for an interval. It waits for ever if there is none, and not at
all unless the interval is positive. -/
def canWait (interval : Value) : Bool :=
  match interval with
  | .null => true
  | interval =>
    match interval.number? with
    | some seconds => !seconds.gt (.int 0) || fitsClock seconds
    | none => false

/-- What the background does once: it takes a sample and waits for the next one. A fault in
either ends it. -/
def round (m : Monitor) : Outcome Monitor Value :=
  let asked := m.sample
  let goesOn := asked.result.isOk && canWait m.interval
  { asked with state := { asked.state with
      sampling := if goesOn then .underWay else .ended false } }

/-- Begins to sample in the background; the first sample is taken at once. -/
def start (m : Monitor) : Logged (Bool × Monitor) :=
  if m.sampler.isNone || m.running then .silent (false, m)
  else ⟨(true, m.round.state), m.round.log⟩

/-- How many seconds the one who stops the sampling waits for its end at most. -/
def patience (interval : Value) : Except Fault Binary64 :=
  match interval with
  | .text _ | .bytes _ | .list _ | .tuple _ => .error (.notJoinable interval.typeName "float")
  | interval =>
    match interval.number? with
    | some seconds => do return (← seconds.toFloat) + .nearest false 1 1
    | none => .error (.noSum interval.typeName "float")

/-- Waits for the end of a thread. Nobody waits for a negative time. -/
def await (seconds : Binary64) : Except Fault Unit :=
  if seconds = .nan then .error .timeNotANumber
  else if fitsClock (.float seconds) then .ok ()
  else .error .timeTooLong

/-- Waits for the end of the thread, unless there is none or its end has been noticed. -/
def awaitEnd (m : Monitor) : Except Fault Unit :=
  match m.sampling with
  | .idle => .ok ()
  | .underWay | .ended false => patience m.interval >>= await
  | .ended true => (patience m.interval).map fun _ => ()

/-- Ends the sampling. It ends also if it cannot be waited for. -/
def stop (m : Monitor) : Outcome Monitor Unit :=
  ⟨m.awaitEnd, { m with sampling := .idle }, []⟩

end Monitor
end ScriptProfiling
