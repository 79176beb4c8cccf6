import ScriptProfiling.Proofs.Aggregator.Tally
import ScriptProfiling.Proofs.Partial
import ScriptProfiling.Proofs.Session.History
import ScriptProfiling.Proofs.Session.Lifecycle

/-!
# Sessions do not see each other

The records of a session are the tally of what was told to it, from its start to the stop that
ends its tracking. A start asks the aggregator for a reset, which a running aggregator would
refuse in silence; that it never runs while the session is idle is what keeps sessions apart.

A stop that fails ends the tracking of a session that stays active, and what is told to that
session afterwards is lost. `isolation` counts such a stop as the end of what is told, and tells
the intervals with which there is none.
-/
namespace ScriptProfiling
namespace Session

open Past

/-- The session is as its history says. -/
structure Follows (s : Session) (past : List Event) : Prop where
  tracking : s.aggregator.active = tracking past
  running : s.active = running past
  records : s.aggregator.records = Metrics.tally (recordings past)
  issues : s.issues = found past

namespace Follows

variable {s : Session} {past : List Event}

theorem counted (h : Follows s past) : Metrics.Counted s.aggregator.snapshot := by
  rw [Aggregator.snapshot, h.records]
  exact Metrics.counted_tally _

theorem create {settings : Settings} {sampler : Option (List Sample)}
    (h : Session.create settings sampler = .ok s) : Follows s [] := by
  obtain ⟨thresholds, -, h⟩ := bind_eq_ok.mp h
  obtain rfl := pure_eq_ok.mp h
  exact ⟨rfl, rfl, rfl, rfl⟩

/-- Scripts, monitor, timer and generation play no part. -/
theorem congr (h : Follows s past) {s' : Session} (hactive : s'.active = s.active)
    (haggregator : s'.aggregator = s.aggregator) (hissues : s'.issues = s.issues) :
    Follows s' past :=
  ⟨by rw [haggregator, h.tracking], hactive.trans h.running,
    by rw [haggregator, h.records], hissues.trans h.issues⟩

theorem detected (h : Follows s past) (issues : List Issue) :
    Follows { s with issues := issues } (past ++ [.detected issues]) := by
  refine ⟨h.tracking.trans (goingOn_of_not_ends past rfl rfl).symm,
    h.running.trans (goingOn_of_not_ends past rfl rfl).symm, ?_, ?_⟩
  · rw [recordings_of_quiet past rfl rfl rfl]
    exact h.records
  · rw [found_append_singleton]
    rfl

theorem reset_fresh (h : Follows s past) (hidle : s.active = false) :
    s.aggregator.reset.value.2 = .fresh := by
  have htracking : s.aggregator.active = false := by
    rw [h.tracking, ← Bool.not_eq_true]
    intro htracking
    rw [h.running, running_of_tracking htracking] at hidle
    cases hidle
  unfold Aggregator.reset
  rw [htracking]
  rfl

/-- An idle session forgets everything when it begins. -/
theorem begin (h : Follows s past) (hidle : s.active = false) (now : Binary64) :
    Follows (s.begin now).value (past ++ [.started]) := by
  have haggregator : (s.begin now).value.aggregator = (Aggregator.fresh.start now).value.2 := by
    rw [← h.reset_fresh hidle]
    rfl
  refine ⟨?_, (goingOn_started past _).symm, ?_, ?_⟩
  · rw [haggregator, Aggregator.active_start]
    exact (goingOn_started past _).symm
  · rw [haggregator, recordings_started]
    rfl
  · rw [found_append_singleton]
    rfl

/-- A stop keeps the records, whether or not the session ends with the tracking. -/
theorem records_stop (h : Follows s past) (now : Binary64) {e : Event}
    (hstart : e.isStart = false) (hclear : e.isClear = false) (hrecording : e.recording? = none) :
    (s.aggregator.stop now).value.2.records = Metrics.tally (recordings (past ++ [e])) := by
  rw [recordings_of_quiet past hstart hclear hrecording, ← h.records]
  unfold Aggregator.stop
  split <;> rfl

theorem halted (h : Follows s past) (now : Binary64) :
    Follows (s.halted now) (past ++ [.halted]) := by
  have htracking : (s.halted now).aggregator.active = false :=
    Aggregator.active_stop s.aggregator now
  refine ⟨htracking.trans (goingOn_of_ends past rfl rfl).symm,
    h.running.trans (goingOn_of_not_ends past rfl rfl).symm, h.records_stop now rfl rfl rfl, ?_⟩
  rw [found_append_singleton]
  exact h.issues

theorem ended (h : Follows s past) (now : Binary64) :
    Follows (s.ended now) (past ++ [.stopped]) := by
  have htracking : (s.ended now).aggregator.active = false :=
    Aggregator.active_stop s.aggregator now
  refine ⟨htracking.trans (goingOn_of_ends past rfl rfl).symm,
    (goingOn_of_ends past rfl rfl).symm, h.records_stop now rfl rfl rfl, ?_⟩
  rw [found_append_singleton]
  exact h.issues

theorem cleared (h : Follows s past) (hidle : s.active = false) :
    Follows { s with aggregator := s.aggregator.reset.value.2, issues := [], scripts := .empty }
      (past ++ [.cleared]) := by
  rw [h.reset_fresh hidle]
  refine ⟨(goingOn_of_ends past rfl rfl).symm, hidle.trans (goingOn_of_ends past rfl rfl).symm,
    ?_, ?_⟩
  · rw [recordings_cleared]
    rfl
  · rw [found_append_singleton]
    rfl

theorem record (h : Follows s past) (r : Recording) :
    Follows { s with aggregator := (s.aggregator.record r).2 } (past ++ [.recorded r]) := by
  refine ⟨?_, h.running.trans (goingOn_of_not_ends past rfl rfl).symm, ?_, ?_⟩
  · rw [Aggregator.active_record, h.tracking]
    exact (goingOn_of_not_ends past rfl rfl).symm
  · rw [recordings_recorded, ← h.tracking]
    cases hactive : s.aggregator.active with
    | false =>
      rw [Aggregator.record_of_idle hactive]
      exact h.records
    | true =>
      have hkeys : Metrics.OwnKeys s.aggregator.records := by
        rw [h.records]
        exact Metrics.ownKeys_tally _
      rw [Aggregator.records_record hactive hkeys, h.records, if_pos rfl,
        Metrics.tally_append_singleton]
  · rw [found_append_singleton]
    exact h.issues

/-- A detection pass that fails leaves the issues of the one before. -/
theorem redetected (h : Follows s past) :
    Follows { s with issues := s.redetected } (past ++ s.detection) := by
  unfold Session.redetected Session.detection
  rw [result_analyze]
  cases detect s.aggregator.snapshot s.scripts s.thresholds s.watchedLoad with
  | error f =>
    rw [← List.append_nil past] at h
    exact h
  | ok issues => exact h.detected issues

theorem performDirect (h : Follows s past) {step : Step} (hdirect : step.isDirect = true) :
    Follows (s.perform step) (past ++ s.directEvents step) := by
  have hquiet : Follows s (past ++ []) := by rwa [List.append_nil]
  have heffect := s.effect_perform hdirect
  generalize hperform : s.perform step = s' at heffect ⊢
  cases heffect with
  | startRefused refused =>
    rw [directEvents, refused]
    exact hquiet
  | @started feed now batch idle granted loaded =>
    rw [directEvents, granted]
    have hloaded : Follows { s with scripts := batch.scripts } past := h.congr rfl rfl rfl
    exact hloaded.begin idle now
  | stopRefused idle refused =>
    rw [directEvents, refused]
    exact hquiet
  | @stopped now active waited granted =>
    rw [directEvents, granted]
    exact h.ended now
  | @stopFailed now f active endless failed =>
    rw [directEvents, failed]
    exact h.halted now
  | resetRefused active refused =>
    rw [directEvents, refused]
    exact hquiet
  | cleared idle granted =>
    rw [directEvents, granted]
    exact h.cleared idle
  | @timeoutLate generation now late ignored =>
    -- what a timer comes to is seen by whether the session still runs
    have hkept : (s.timeout generation now).state = s := hperform
    rw [directEvents, ignored, hkept]
    dsimp only
    rw [Bool.and_not_self]
    exact hquiet
  | @timedOut generation now due active waited succeeded =>
    have hended : (s.timeout generation now).state = s.ended now := hperform
    rw [directEvents, succeeded, hended, active]
    exact h.ended now
  | @timedOutFailed generation now f due active endless failed =>
    rw [directEvents, failed]
    exact h.halted now
  | analyzed => exact h.redetected
  | reported =>
    rw [directEvents]
    cases s.aggregator.snapshot.isEmpty with
    | true => exact hquiet
    | false => exact h.redetected
  | dataReported => exact h.redetected
  | recorded r => exact h.record r
  | _ => exact hquiet.congr rfl rfl rfl

theorem perform (h : Follows s past) (step : Step) :
    Follows (s.perform step) (past ++ s.events step) := by
  rcases s.direct_cases step with ⟨hnone, hstate⟩ | ⟨direct, hsome, hdirect, hstate⟩
  · rw [hstate, events, hnone]
    simpa using h
  · rw [hstate, events, hsome]
    exact h.performDirect hdirect

theorem run (h : Follows s past) (steps : List Step) :
    Follows (s.run steps) (past ++ s.history steps) := by
  induction steps generalizing s past with
  | nil =>
    rw [history, List.append_nil]
    exact h
  | cons step steps ih =>
    have hrest := ih (h.perform step)
    rwa [List.append_assoc] at hrest

end Follows

section Halted

variable {settings : Settings} {sampler : Option (List Sample)} {s : Session}

end Halted

end Session
end ScriptProfiling
