import ScriptProfiling.Commands
import ScriptProfiling.Proofs.Aggregator.Operation
import ScriptProfiling.Proofs.Monitor

/-!
# Runs of a session

A host, a user, a timer and the background drive one session. Each thing they do is a
step, and a run is any list of steps. Executions are told to the aggregator and loads to
the monitor; whether these two are at work is left to the session.
-/
namespace ScriptProfiling

/-- Whether what was asked for was done. -/
def Outcome.granted {σ : Type} (o : Outcome σ Bool) : Bool :=
  match o.result with
  | .ok done => done
  | .error _ => false

namespace Commands

/-- The subcommand that some arguments name. -/
def subcommand? : List Value → Option Subcommand
  | [] => none
  | first :: _ =>
    match lowerWord first with
    | .error _ => none
    | .ok word => subcommands.find? (·.name == word)

variable (s : Session) (name : String) (feed : Feed) (now : Binary64)

theorem state_start : (start s name feed now).state = (s.start feed now).state := by
  unfold start
  split
  · next hactive =>
    have hrefused : s.start feed now = ⟨.ok false, s, []⟩ := if_pos hactive
    rw [hrefused]
  · rfl

theorem state_stop : (stop s name now).state = (s.stop now).state := by
  unfold stop
  split
  · next hidle =>
    have hrefused : s.stop now = ⟨.ok false, s, []⟩ := if_pos hidle
    rw [hrefused]
  · rfl

theorem state_report (detailed : Bool) :
    (report s now detailed).state = (s.report now detailed).state := by
  unfold report
  dsimp only
  split <;> rfl

end Commands

namespace Session

/-- Scripts and clock readings come with the step that needs them. -/
inductive Step where
  | start (feed : Feed) (now : Binary64)
  | stop (now : Binary64)
  | reset
  | reload (feed : Feed)
  | timeout (generation : Int) (now : Binary64)
  | analyze
  | report (now : Binary64) (detailed : Bool)
  | reportData (now : Binary64)
  | status (now : Binary64)
  | command (name : String) (feed : Feed) (now : Binary64) (args : List Value)
  | load (v : Value)
  /-- The host has the sampler asked once. -/
  | sample
  /-- The host asks whether samples are taken in the background. -/
  | look
  /-- The background asks the sampler, if sampling is under way. -/
  | poll
  | record (r : Recording)

/-- The session after a step, also after one that failed. -/
def perform (s : Session) : Step → Session
  | .start feed now => (s.start feed now).state
  | .stop now => (s.stop now).state
  | .reset => s.reset.value.2
  | .reload feed => (s.reload feed).state
  | .timeout generation now => (s.timeout generation now).state
  | .analyze => s.analyze.state
  | .report now detailed => (s.report now detailed).state
  | .reportData now => (s.reportData now).state
  | .status _ => s
  | .command name feed now args => (Commands.handle s name feed now args).state
  | .load v => { s with monitor := (s.monitor.update v).state }
  | .sample => { s with monitor := s.monitor.sample.state }
  | .look => { s with monitor := s.monitor.noticed }
  | .poll => { s with monitor := s.monitor.poll }
  | .record r => { s with aggregator := (s.aggregator.record r).2 }

def run (s : Session) (steps : List Step) : Session := steps.foldl perform s

/-- Whether a step is a start that succeeds, asked for by the host or by a command. -/
def starts (s : Session) : Step → Bool
  | .start feed now => (s.start feed now).granted
  | .command _ feed now args =>
    Commands.subcommand? args = some .start && (s.start feed now).granted
  | _ => false

/-- How many starts succeed in a run. -/
def startCount (s : Session) : List Step → Nat
  | [] => 0
  | step :: steps => (s.starts step).toNat + (s.perform step).startCount steps

/-- The issues that a session keeps after a pass of detection, also after one that fails. -/
def redetected (s : Session) : List Issue :=
  (detect s.aggregator.snapshot s.scripts s.thresholds s.watchedLoad).toOption.getD s.issues

/-- A session in which everything that its start has begun is over. -/
def ended (s : Session) (now : Binary64) : Session :=
  { s.halted now with active := false, timer := false }

section Cases

variable (s : Session)

theorem reload_cases (feed : Feed) :
    (∃ f, (s.reload feed).result = .error f ∧ (s.reload feed).state = s) ∨
    ∃ batch, Batch.ofItems feed.room feed.items = (batch, none) ∧
      (s.reload feed).result = .ok batch.scripts ∧
      (s.reload feed).state = { s with scripts := batch.scripts } := by
  unfold reload
  split
  · exact Or.inl ⟨_, rfl, rfl⟩
  · next batch hbatch =>
    split
    · exact Or.inl ⟨_, rfl, rfl⟩
    · exact Or.inr ⟨batch, hbatch, rfl, rfl⟩

/-- A start is refused or fails and changes nothing, or it begins a session with the
scripts that it has loaded. -/
theorem start_cases (feed : Feed) (now : Binary64) :
    ((s.start feed now).granted = false ∧ (s.start feed now).state = s) ∨
    (s.active = false ∧ (s.start feed now).granted = true ∧
      ∃ batch, Batch.ofItems feed.room feed.items = (batch, none) ∧
        (s.start feed now).state = (begin { s with scripts := batch.scripts } now).value) := by
  by_cases hactive : s.active = true
  · have hstart : s.start feed now = ⟨.ok false, s, []⟩ := if_pos hactive
    rw [hstart]
    exact Or.inl ⟨rfl, rfl⟩
  · have hidle : s.active = false := by simpa using hactive
    rcases s.reload_cases feed with ⟨f, hresult, hstate⟩ | ⟨batch, hbatch, hresult, hstate⟩
    · have hstart : s.start feed now = ⟨.error f, s, opening :: (s.reload feed).log⟩ := by
        simp only [start, if_neg hactive, hresult, hstate]
      rw [hstart]
      exact Or.inl ⟨rfl, rfl⟩
    · have hstart : s.start feed now =
          ⟨.ok true, (begin { s with scripts := batch.scripts } now).value,
            opening :: (s.reload feed).log ++
              (begin { s with scripts := batch.scripts } now).log⟩ := by
        simp only [start, if_neg hactive, hresult, hstate]
      rw [hstart]
      exact Or.inr ⟨hidle, rfl, batch, hbatch, rfl⟩

variable {s} in
/-- A stop ends a session, or it ends the tracking and the sampling alone. -/
theorem stop_of_active (h : s.active = true) (now : Binary64) :
    (s.monitor.awaitEnd = .ok () ∧ (s.stop now).result = .ok true ∧
      (s.stop now).state = s.ended now) ∨
    ∃ f, s.monitor.awaitEnd = .error f ∧ (s.stop now).result = .error f ∧
      (s.stop now).state = s.halted now := by
  cases hend : s.monitor.awaitEnd with
  | ok => refine Or.inl ⟨rfl, ?_, ?_⟩ <;> simp [stop, h, Monitor.stop, hend, ended]
  | error f => refine Or.inr ⟨f, rfl, ?_, ?_⟩ <;> simp [stop, h, Monitor.stop, hend]

theorem stop_cases (now : Binary64) :
    (s.active = false ∧ (s.stop now).result = .ok false ∧ (s.stop now).state = s) ∨
    (s.active = true ∧ s.monitor.awaitEnd = .ok () ∧ (s.stop now).result = .ok true ∧
      (s.stop now).state = s.ended now) ∨
    (s.active = true ∧ ∃ f, s.monitor.awaitEnd = .error f ∧ (s.stop now).result = .error f ∧
      (s.stop now).state = s.halted now) := by
  cases hactive : s.active with
  | false => exact Or.inl ⟨rfl, by simp [stop, hactive], by simp [stop, hactive]⟩
  | true =>
    rcases stop_of_active hactive now with hended | hhalted
    · exact Or.inr (Or.inl ⟨rfl, hended⟩)
    · exact Or.inr (Or.inr ⟨rfl, hhalted⟩)

theorem timeout_cases (generation : Int) (now : Binary64) :
    ((generation ≠ s.generation || !s.active) = true ∧
      (s.timeout generation now).result = .ok () ∧ (s.timeout generation now).state = s) ∨
    ((generation ≠ s.generation || !s.active) = false ∧ s.active = true ∧
      (s.timeout generation now).result = (s.stop now).result.map (fun _ => ()) ∧
      (s.timeout generation now).state = (s.stop now).state) := by
  unfold timeout
  split
  · next hlate => exact Or.inl ⟨hlate, rfl, rfl⟩
  · next hdue =>
    rw [Bool.not_eq_true] at hdue
    have hactive : s.active = true := by
      simpa using (Bool.or_eq_false_iff.mp hdue).2
    exact Or.inr ⟨hdue, hactive, rfl, rfl⟩

theorem reset_cases :
    (s.active = true ∧ s.reset.value = (false, s)) ∨
    (s.active = false ∧ s.reset.value = (true, { s with
      aggregator := s.aggregator.reset.value.2
      issues := []
      scripts := .empty })) := by
  cases hactive : s.active with
  | true => exact Or.inl ⟨rfl, by simp [reset, hactive, Logged.silent]⟩
  | false => exact Or.inr ⟨rfl, by simp [reset, hactive]⟩

theorem result_analyze : s.analyze.result =
    detect s.aggregator.snapshot s.scripts s.thresholds s.watchedLoad := by
  unfold analyze
  split
  · next f hdetect => exact hdetect.symm
  · next issues hdetect => exact hdetect.symm

theorem state_analyze : s.analyze.state = { s with issues := s.redetected } := by
  unfold analyze redetected
  split
  · next f hf =>
    rw [hf]
    rfl
  · next issues hissues =>
    rw [hissues]
    rfl

theorem state_report (now : Binary64) (detailed : Bool) : (s.report now detailed).state =
    { s with issues := if s.aggregator.snapshot.isEmpty then s.issues else s.redetected } := by
  unfold report
  cases s.aggregator.snapshot.isEmpty with
  | true => rfl
  | false => exact s.state_analyze

theorem detect_of_analyze {s : Session} {issues : List Issue} (h : s.analyze.result = .ok issues) :
    detect s.aggregator.snapshot s.scripts s.thresholds s.watchedLoad = .ok issues :=
  s.result_analyze.symm.trans h

end Cases

end Session
end ScriptProfiling
