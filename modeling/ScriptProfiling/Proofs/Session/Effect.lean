import ScriptProfiling.Proofs.Session.Step

/-!
# What a step does to a session

A command asks for a step of the session itself, or for nothing. Such a step is refused, fails, or
does what it is for. What holds of all steps is read off these few effects.
-/
namespace ScriptProfiling

/-- The step that a command asks for. Some commands change nothing. -/
def Commands.step? (feed : Feed) (now : Binary64) (args : List Value) : Option Session.Step :=
  match subcommand? args with
  | some .start => some (.start feed now)
  | some .stop => some (.stop now)
  | some .reset => some .reset
  | some .report => (isDetailed args.tail).toOption.map (.report now)
  | _ => none

namespace Session

/-- The step that the session itself takes. -/
def Step.direct? : Step → Option Step
  | .command _ feed now args => Commands.step? feed now args
  | step => some step

def Step.isDirect : Step → Bool
  | .command .. => false
  | _ => true

theorem isDirect_step? {feed : Feed} {now : Binary64} {args : List Value} {step : Step}
    (h : Commands.step? feed now args = some step) : step.isDirect = true := by
  unfold Commands.step? at h
  split at h
  · rw [← Option.some.inj h]; rfl
  · rw [← Option.some.inj h]; rfl
  · rw [← Option.some.inj h]; rfl
  · obtain ⟨detailed, -, hreport⟩ := Option.map_eq_some_iff.mp h
    rw [← hreport]
    rfl
  · cases h

theorem perform_command (s : Session) (name : String) (feed : Feed) (now : Binary64)
    (args : List Value) :
    s.perform (.command name feed now args) =
      ((Commands.step? feed now args).map s.perform).getD s := by
  change (Commands.handle s name feed now args).state = _
  unfold Commands.handle Commands.step? Commands.subcommand?
  cases args with
  | nil => rfl
  | cons first options =>
    dsimp only
    cases Commands.lowerWord first with
    | error f => rfl
    | ok word =>
      dsimp only
      cases Commands.subcommands.find? (·.name == word) with
      | none => rfl
      | some subcommand =>
        cases subcommand with
        | start => exact Commands.state_start s name feed now
        | stop => exact Commands.state_stop s name now
        | reset => rfl
        | report =>
          dsimp only [List.tail_cons]
          cases Commands.isDetailed options with
          | error f => rfl
          | ok detailed => exact Commands.state_report s now detailed
        | status => rfl
        | help => rfl

/-- A step changes nothing, or it changes a session as the step does that the session itself
takes. -/
theorem direct_cases (s : Session) (step : Step) :
    (step.direct? = none ∧ s.perform step = s) ∨
      ∃ direct, step.direct? = some direct ∧ direct.isDirect = true ∧
        s.perform step = s.perform direct := by
  cases step with
  | command name feed now args =>
    rw [perform_command, Step.direct?]
    cases hstep : Commands.step? feed now args with
    | none => exact Or.inl ⟨rfl, rfl⟩
    | some direct => exact Or.inr ⟨direct, rfl, isDirect_step? hstep, rfl⟩
  | _ => exact Or.inr ⟨_, rfl, rfl, rfl⟩

theorem starts_eq (s : Session) (step : Step) : s.starts step = step.direct?.any s.starts := by
  cases step with
  | command name feed now args =>
    rw [starts, Step.direct?, Commands.step?]
    cases Commands.subcommand? args with
    | none => rfl
    | some subcommand =>
      cases subcommand with
      | start => rfl
      | report => cases Commands.isDetailed args.tail <;> rfl
      | _ => rfl
  | _ => rfl

/-- What a step of the session itself does, with the guard under which it does so and with what the
host is told of it. -/
inductive Effect (s : Session) : Step → Session → Prop where
  | startRefused {feed : Feed} {now : Binary64} (refused : (s.start feed now).granted = false) :
    Effect s (.start feed now) s
  | started {feed : Feed} {now : Binary64} {batch : Batch} (idle : s.active = false)
      (granted : (s.start feed now).granted = true)
      (loaded : Batch.ofItems feed.room feed.items = (batch, none)) :
    Effect s (.start feed now) (begin { s with scripts := batch.scripts } now).value
  | stopRefused {now : Binary64} (idle : s.active = false)
      (refused : (s.stop now).result = .ok false) : Effect s (.stop now) s
  | stopped {now : Binary64} (active : s.active = true) (waited : s.monitor.awaitEnd = .ok ())
      (granted : (s.stop now).result = .ok true) : Effect s (.stop now) (s.ended now)
  | stopFailed {now : Binary64} {f : Fault} (active : s.active = true)
      (endless : s.monitor.awaitEnd = .error f) (failed : (s.stop now).result = .error f) :
    Effect s (.stop now) (s.halted now)
  | resetRefused (active : s.active = true) (refused : s.reset.value.1 = false) : Effect s .reset s
  | cleared (idle : s.active = false) (granted : s.reset.value.1 = true) :
    Effect s .reset { s with
      aggregator := s.aggregator.reset.value.2
      issues := []
      scripts := .empty }
  | reloadFailed {feed : Feed} {f : Fault} (failed : (s.reload feed).result = .error f) :
    Effect s (.reload feed) s
  | reloaded {feed : Feed} {batch : Batch}
      (loaded : Batch.ofItems feed.room feed.items = (batch, none))
      (succeeded : (s.reload feed).result = .ok batch.scripts) :
    Effect s (.reload feed) { s with scripts := batch.scripts }
  | timeoutLate {generation : Int} {now : Binary64}
      (late : (generation ≠ s.generation || !s.active) = true)
      (ignored : (s.timeout generation now).result = .ok ()) :
    Effect s (.timeout generation now) s
  | timedOut {generation : Int} {now : Binary64}
      (due : (generation ≠ s.generation || !s.active) = false) (active : s.active = true)
      (waited : s.monitor.awaitEnd = .ok ())
      (succeeded : (s.timeout generation now).result = .ok ()) :
    Effect s (.timeout generation now) (s.ended now)
  | timedOutFailed {generation : Int} {now : Binary64} {f : Fault}
      (due : (generation ≠ s.generation || !s.active) = false) (active : s.active = true)
      (endless : s.monitor.awaitEnd = .error f)
      (failed : (s.timeout generation now).result = .error f) :
    Effect s (.timeout generation now) (s.halted now)
  | analyzed : Effect s .analyze { s with issues := s.redetected }
  | reported {now : Binary64} {detailed : Bool} : Effect s (.report now detailed)
      { s with issues := if s.aggregator.snapshot.isEmpty then s.issues else s.redetected }
  | dataReported {now : Binary64} : Effect s (.reportData now) { s with issues := s.redetected }
  | told {now : Binary64} : Effect s (.status now) s
  | loaded (v : Value) : Effect s (.load v) { s with monitor := (s.monitor.update v).state }
  | sampled : Effect s .sample { s with monitor := s.monitor.sample.state }
  | looked : Effect s .look { s with monitor := s.monitor.noticed }
  | polled : Effect s .poll { s with monitor := s.monitor.poll }
  | recorded (r : Recording) :
    Effect s (.record r) { s with aggregator := (s.aggregator.record r).2 }

theorem effect_perform (s : Session) {step : Step} (hdirect : step.isDirect = true) :
    Effect s step (s.perform step) := by
  cases step with
  | start feed now =>
    rcases s.start_cases feed now with
      ⟨hrefused, hstate⟩ | ⟨hidle, hgranted, batch, hbatch, hstate⟩
    · rw [perform, hstate]
      exact .startRefused hrefused
    · rw [perform, hstate]
      exact .started hidle hgranted hbatch
  | stop now =>
    rcases s.stop_cases now with ⟨hidle, hresult, hstate⟩ |
      ⟨hactive, hwaited, hresult, hstate⟩ | ⟨hactive, f, hendless, hresult, hstate⟩
    · rw [perform, hstate]
      exact .stopRefused hidle hresult
    · rw [perform, hstate]
      exact .stopped hactive hwaited hresult
    · rw [perform, hstate]
      exact .stopFailed hactive hendless hresult
  | reset =>
    rcases s.reset_cases with ⟨hactive, hvalue⟩ | ⟨hidle, hvalue⟩
    · rw [perform, hvalue]
      exact .resetRefused hactive (congrArg Prod.fst hvalue)
    · rw [perform, hvalue]
      exact .cleared hidle (congrArg Prod.fst hvalue)
  | reload feed =>
    rcases s.reload_cases feed with ⟨f, hresult, hstate⟩ | ⟨batch, hbatch, hresult, hstate⟩
    · rw [perform, hstate]
      exact .reloadFailed hresult
    · rw [perform, hstate]
      exact .reloaded hbatch hresult
  | timeout generation now =>
    rcases s.timeout_cases generation now with
      ⟨hlate, hresult, hstate⟩ | ⟨hdue, hactive, hresult, hstate⟩
    · rw [perform, hstate]
      exact .timeoutLate hlate hresult
    · rw [perform, hstate]
      rcases stop_of_active hactive now with
        ⟨hwaited, hstopped, hstate⟩ | ⟨f, hendless, hstopped, hstate⟩
      · rw [hstate]
        exact .timedOut hdue hactive hwaited (by rw [hresult, hstopped]; rfl)
      · rw [hstate]
        exact .timedOutFailed hdue hactive hendless (by rw [hresult, hstopped]; rfl)
  | analyze =>
    rw [perform, state_analyze]
    exact .analyzed
  | report now detailed =>
    rw [perform, state_report]
    exact .reported
  | reportData now =>
    change Effect s (.reportData now) s.analyze.state
    rw [state_analyze]
    exact .dataReported
  | command name feed now args => exact absurd hdirect Bool.false_ne_true
  | status now => exact .told
  | load v => exact .loaded v
  | sample => exact .sampled
  | look => exact .looked
  | poll => exact .polled
  | record r => exact .recorded r

/-- All that a step can do to a session, and whether it is a start that succeeds. -/
inductive Change (s : Session) : Bool → Session → Prop where
  | none : Change s false s
  | scripts (scripts : Scripts) : Change s false { s with scripts := scripts }
  | issues (issues : List Issue) : Change s false { s with issues := issues }
  | load (v : Value) : Change s false { s with monitor := (s.monitor.update v).state }
  | sample : Change s false { s with monitor := s.monitor.sample.state }
  | look : Change s false { s with monitor := s.monitor.noticed }
  | poll : Change s false { s with monitor := s.monitor.poll }
  | record (r : Recording) : Change s false { s with aggregator := (s.aggregator.record r).2 }
  | start (scripts : Scripts) (now : Binary64) (idle : s.active = false) :
    Change s true (begin { s with scripts := scripts } now).value
  | stop (now : Binary64) (active : s.active = true) (waited : s.monitor.awaitEnd = .ok ()) :
    Change s false (s.ended now)
  | halt (now : Binary64) {f : Fault} (active : s.active = true)
      (endless : s.monitor.awaitEnd = .error f) : Change s false (s.halted now)
  | reset (idle : s.active = false) : Change s false { s with
      aggregator := s.aggregator.reset.value.2
      issues := []
      scripts := .empty }

theorem Effect.change {s s' : Session} {step : Step} (h : Effect s step s') :
    Change s (s.starts step) s' := by
  cases h with
  | startRefused refused =>
    rw [starts, refused]
    exact .none
  | @started feed now batch idle granted loaded =>
    rw [starts, granted]
    exact .start batch.scripts now idle
  | @stopped now active waited granted => exact .stop now active waited
  | @stopFailed now f active endless failed => exact .halt now active endless
  | cleared idle granted => exact .reset idle
  | reloaded => exact .scripts _
  | @timedOut generation now due active waited => exact .stop now active waited
  | @timedOutFailed generation now f due active endless => exact .halt now active endless
  | analyzed => exact .issues _
  | reported => exact .issues _
  | dataReported => exact .issues _
  | loaded v => exact .load v
  | sampled => exact .sample
  | looked => exact .look
  | polled => exact .poll
  | recorded r => exact .record r
  | _ => exact .none

/-- No step does anything else. -/
theorem change_perform (s : Session) (step : Step) : Change s (s.starts step) (s.perform step) := by
  rw [starts_eq]
  rcases s.direct_cases step with ⟨hnone, hstate⟩ | ⟨direct, hsome, hdirect, hstate⟩
  · rw [hnone, hstate]
    exact .none
  · rw [hsome, hstate]
    exact (s.effect_perform hdirect).change

end Session
end ScriptProfiling
