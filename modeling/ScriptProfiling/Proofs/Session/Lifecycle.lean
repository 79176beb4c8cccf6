import ScriptProfiling.Proofs.Aggregator.Window
import ScriptProfiling.Proofs.Partial
import ScriptProfiling.Proofs.Session.Effect

/-!
# The parts of a session agree

A session, its aggregator, its monitor and its timer each know whether the session runs. Two
invariants say that they agree. `Agrees` holds of every session: the timer follows the session
and the generation counts the starts that succeeded. `InStep` holds as long as the sampling in
the background lasts: the tracking and the sampling follow the session as well.

Whether the sampling lasts is a matter of its interval alone. A thread that cannot wait for the
interval ends behind its first sample, while the session goes on. If the end of the thread cannot
be waited for, a stop fails when it has ended the tracking and the sampling, and the session stays
active without them. `lifecycle` says that nothing else lets the parts disagree.
-/
namespace ScriptProfiling
namespace Session

/-- What holds of a session that has been started so many times. -/
structure Agrees (settings : Settings) (sampled : Bool) (started : Nat) (s : Session) : Prop where
  configured : s.settings = settings
  interval : s.monitor.interval = settings.sampleInterval.toValue
  sampler : s.monitor.sampler.isSome = sampled
  /-- Nothing samples that has not been asked to. -/
  unasked : (settings.loadAware.truthy && sampled) = false → s.monitor.sampling = .idle
  timer : s.timer = (s.active && settings.maxDuration.gt (.int 0))
  generation : s.generation = started

/-- The tracking and the sampling follow the session. -/
structure InStep (settings : Settings) (sampled : Bool) (s : Session) : Prop where
  monitor : s.monitor.Ready sampled
  tracking : s.active = s.aggregator.active
  sampling : s.monitor.sampling =
    if s.active && settings.loadAware.truthy && sampled then .underWay else .idle

namespace Agrees

variable {settings : Settings} {sampled : Bool} {started : Nat} {s : Session}

theorem create {sampler : Option (List Sample)} (h : Session.create settings sampler = .ok s) :
    Agrees settings sampler.isSome 0 s := by
  obtain ⟨thresholds, -, h⟩ := bind_eq_ok.mp h
  obtain rfl := pure_eq_ok.mp h
  exact ⟨rfl, rfl, rfl, fun _ => rfl, rfl, rfl⟩

/-- Aggregator, scripts and issues play no part. -/
theorem congr (h : Agrees settings sampled started s) {s' : Session}
    (hsettings : s'.settings = s.settings) (hmonitor : s'.monitor = s.monitor)
    (htimer : s'.timer = s.timer) (hactive : s'.active = s.active)
    (hgeneration : s'.generation = s.generation) : Agrees settings sampled started s' :=
  ⟨hsettings.trans h.configured, by rw [hmonitor, h.interval], by rw [hmonitor, h.sampler],
    fun hnot => by rw [hmonitor, h.unasked hnot], by rw [htimer, hactive, h.timer],
    hgeneration.trans h.generation⟩

theorem withMonitor (h : Agrees settings sampled started s) {m : Monitor}
    (halike : s.monitor.Alike m) (hidle : s.monitor.sampling = .idle → m.sampling = .idle) :
    Agrees settings sampled started { s with monitor := m } :=
  ⟨h.configured, halike.interval.trans h.interval, halike.sampler.trans h.sampler,
    fun hnot => hidle (h.unasked hnot), h.timer, h.generation⟩

theorem begin (h : Agrees settings sampled started s) (hidle : s.active = false)
    (now : Binary64) : Agrees settings sampled (started + 1) (s.begin now).value := by
  have htimer : s.timer = false := by rw [h.timer, hidle]; rfl
  have hmonitor : (s.begin now).value.monitor =
      if settings.loadAware.truthy then s.monitor.start.value.2 else s.monitor := by
    rw [← h.configured]
    unfold Session.begin
    split <;> rfl
  have halike : s.monitor.Alike (s.begin now).value.monitor := by
    rw [hmonitor]
    split
    · exact s.monitor.alike_start
    · exact ⟨rfl, rfl⟩
  constructor
  case configured => exact h.configured
  case interval => exact halike.interval.trans h.interval
  case sampler => exact halike.sampler.trans h.sampler
  case unasked =>
    intro hnot
    have hkept : (s.begin now).value.monitor = s.monitor := by
      rw [hmonitor]
      cases haware : settings.loadAware.truthy with
      | false => rfl
      | true =>
        rw [haware, Bool.true_and, ← h.sampler] at hnot
        rw [if_pos rfl, Monitor.start_of_isNone hnot]
        rfl
    rw [hkept, h.unasked hnot]
  case timer =>
    change (s.timer || s.settings.maxDuration.gt (.int 0)) = _
    rw [htimer, h.configured]
    rfl
  case generation => exact congrArg (· + 1) h.generation

/-- Nothing that can happen to a session takes the timer from it or leaves it one. -/
theorem change (h : Agrees settings sampled started s) {begun : Bool} {s' : Session}
    (hchange : Change s begun s') : Agrees settings sampled (started + begun.toNat) s' := by
  cases hchange with
  | load v =>
    exact h.withMonitor (s.monitor.alike_update v) (Monitor.sampling_update s.monitor v).trans
  | sample => exact h.withMonitor s.monitor.alike_sample s.monitor.sampling_sample.trans
  | look =>
    refine h.withMonitor s.monitor.alike_noticed fun hidle => ?_
    rw [Monitor.noticed_of_ne (by rw [hidle]; nofun), hidle]
  | poll =>
    refine h.withMonitor s.monitor.alike_poll fun hidle => ?_
    rw [Monitor.poll_of_idle hidle, hidle]
  | start scripts now idle =>
    have hloaded : Agrees settings sampled started { s with scripts := scripts } :=
      h.congr rfl rfl rfl rfl rfl
    exact hloaded.begin idle now
  | stop now active waited =>
    exact ⟨h.configured, h.interval, h.sampler, fun _ => rfl, rfl, h.generation⟩
  | halt now active endless =>
    exact ⟨h.configured, h.interval, h.sampler, fun _ => rfl, h.timer, h.generation⟩
  | _ => exact h.congr rfl rfl rfl rfl rfl

theorem perform (h : Agrees settings sampled started s) (step : Step) :
    Agrees settings sampled (started + (s.starts step).toNat) (s.perform step) :=
  h.change (s.change_perform step)

theorem run (h : Agrees settings sampled started s) (steps : List Step) :
    Agrees settings sampled (started + s.startCount steps) (s.run steps) := by
  induction steps generalizing started s with
  | nil => exact h
  | cons step steps ih =>
    have hrest := ih (h.perform step)
    rwa [Nat.add_assoc] at hrest

theorem awaitEnd (h : Agrees settings sampled started s)
    (hjoins : settings.loadAware.truthy = true → sampled = true →
      Monitor.Joinable settings.sampleInterval.toValue) : s.monitor.awaitEnd = .ok () := by
  cases hasked : settings.loadAware.truthy && sampled with
  | false =>
    unfold Monitor.awaitEnd
    rw [h.unasked hasked]
  | true =>
    obtain ⟨haware, hsampled⟩ := (Bool.and_eq_true _ _).mp hasked
    refine Monitor.awaitEnd_of_joinable ?_
    rw [h.interval]
    exact hjoins haware hsampled

end Agrees

namespace InStep

variable {settings : Settings} {sampled : Bool} {started : Nat} {s : Session}

theorem create {sampler : Option (List Sample)} (htame : tameSampler sampler = true)
    (h : Session.create settings sampler = .ok s) : InStep settings sampler.isSome s := by
  obtain ⟨thresholds, -, h⟩ := bind_eq_ok.mp h
  obtain rfl := pure_eq_ok.mp h
  exact ⟨⟨rfl, htame, by simp [Monitor.create]⟩, rfl, rfl⟩

theorem withScripts (h : InStep settings sampled s) (scripts : Scripts) :
    InStep settings sampled { s with scripts := scripts } :=
  ⟨h.monitor, h.tracking, h.sampling⟩

theorem withIssues (h : InStep settings sampled s) (issues : List Issue) :
    InStep settings sampled { s with issues := issues } :=
  ⟨h.monitor, h.tracking, h.sampling⟩

theorem withAggregator (h : InStep settings sampled s) {a : Aggregator}
    (ha : a.active = s.aggregator.active) :
    InStep settings sampled { s with aggregator := a } :=
  ⟨h.monitor, h.tracking.trans ha.symm, h.sampling⟩

theorem withMonitor (h : InStep settings sampled s) {m : Monitor} (hm : m.Ready sampled)
    (hsampling : m.sampling = s.monitor.sampling) :
    InStep settings sampled { s with monitor := m } :=
  ⟨hm, h.tracking, hsampling.trans h.sampling⟩

theorem sampling_of_idle (h : InStep settings sampled s) (hidle : s.active = false) :
    s.monitor.sampling = .idle := by
  rw [h.sampling, hidle]
  rfl

theorem begin (h : InStep settings sampled s) (hidle : s.active = false)
    (hwaits : settings.loadAware.truthy = true → sampled = true →
      Monitor.canWait s.monitor.interval = true)
    (hsettings : s.settings = settings) (now : Binary64) :
    InStep settings sampled (s.begin now).value := by
  have hstopped := h.sampling_of_idle hidle
  obtain ⟨hready, hsampling⟩ := h.monitor.start hstopped
  have hmonitor : (s.begin now).value.monitor =
      if settings.loadAware.truthy then s.monitor.start.value.2 else s.monitor := by
    rw [← hsettings]
    unfold Session.begin
    split <;> rfl
  have hactive : (s.begin now).value.active = true := rfl
  constructor
  case monitor =>
    rw [hmonitor]
    split
    · exact hready
    · exact h.monitor
  case tracking => exact (Aggregator.active_start s.aggregator.reset.value.2 now).symm
  case sampling =>
    rw [hmonitor, hactive]
    cases haware : settings.loadAware.truthy with
    | false => exact hstopped
    | true =>
      cases sampled with
      | false => exact hsampling
      | true =>
        rw [hwaits haware rfl] at hsampling
        exact hsampling

/-- While the sampling lasts, nothing that can happen to a session ends the tracking or the
sampling alone. -/
theorem change (h : InStep settings sampled s) (hagrees : Agrees settings sampled started s)
    (hlasting : settings.loadAware.truthy = true → sampled = true →
      Monitor.Lasting settings.sampleInterval.toValue)
    {begun : Bool} {s' : Session} (hchange : Change s begun s') : InStep settings sampled s' := by
  cases hchange with
  | none => exact h
  | scripts scripts => exact h.withScripts scripts
  | issues issues => exact h.withIssues issues
  | load v => exact h.withMonitor (h.monitor.update v) (Monitor.sampling_update s.monitor v)
  | sample => exact h.withMonitor h.monitor.sample.1 s.monitor.sampling_sample
  | look =>
    refine h.withMonitor h.monitor.noticed (congrArg Monitor.sampling ?_)
    refine Monitor.noticed_of_ne fun seen => ?_
    rw [h.sampling]
    split <;> nofun
  | poll =>
    refine h.withMonitor h.monitor.poll ?_
    by_cases hidle : s.monitor.sampling = .idle
    · rw [Monitor.poll_of_idle hidle]
    · have hsampling := h.sampling
      split at hsampling
      · next hasked =>
        simp only [Bool.and_eq_true] at hasked
        have hwaits := (hlasting hasked.1.2 hasked.2).waits
        rw [← hagrees.interval] at hwaits
        have hrunning : s.monitor.running = true := by
          unfold Monitor.running
          rw [hsampling]
          rfl
        rw [Monitor.poll, if_pos hrunning, h.monitor.round.2, if_pos hwaits, hsampling]
      · exact absurd hsampling hidle
  | record r => exact h.withAggregator (Aggregator.active_record s.aggregator r)
  | start scripts now idle =>
    refine (h.withScripts scripts).begin idle (fun haware hsampled => ?_) hagrees.configured now
    rw [show ({ s with scripts := scripts } : Session).monitor = s.monitor from rfl,
      hagrees.interval]
    exact (hlasting haware hsampled).waits
  | stop now active waited =>
    exact ⟨h.monitor.withSampling .idle, (Aggregator.active_stop s.aggregator now).symm, rfl⟩
  | @halt now f active endless =>
    rw [hagrees.awaitEnd fun haware hsampled => (hlasting haware hsampled).joins] at endless
    cases endless
  | reset idle =>
    exact ((h.withAggregator (Aggregator.active_reset s.aggregator)).withIssues []).withScripts _

theorem run (h : InStep settings sampled s) (hagrees : Agrees settings sampled started s)
    (hlasting : settings.loadAware.truthy = true → sampled = true →
      Monitor.Lasting settings.sampleInterval.toValue)
    (steps : List Step) : InStep settings sampled (s.run steps) := by
  induction steps generalizing started s with
  | nil => exact h
  | cons step steps ih =>
    have hchange := s.change_perform step
    exact ih (h.change hagrees hlasting hchange) (hagrees.change hchange)

end InStep

section Granted

variable (s : Session)

end Granted

section Lasting

variable {settings : Settings} {sampler : Option (List Sample)} {s : Session}

end Lasting

/-- A session of at most a minute that samples the load, with an interval of so many seconds. -/
def sampledSession (interval : Number) : Session where
  settings := { Settings.default with maxDuration := .int 60, sampleInterval := interval }
  thresholds := .default
  aggregator := .fresh
  monitor := .create (some [.value (.int 15), .raises "no answer"]) interval.toValue
    Thresholds.default.lowLoad.toValue Settings.default.defaultLoad.toValue
  scripts := .empty
  issues := []
  active := false
  timer := false
  generation := 0

def shortSession : Session := sampledSession Settings.default.sampleInterval

end Session
end ScriptProfiling
