import ScriptProfiling.Proofs.Detection.Persistence
import ScriptProfiling.Proofs.Session.History
import ScriptProfiling.Proofs.Session.Lifecycle

/-!
# Findings last through a session

A finding that more executions do not take back is found again by every later detection pass,
until a start, a reset or a reload renews what is looked at. The host may use the aggregator and
the monitor behind the session's back as well; of all that it does there only a reset of the
aggregator takes records away.
-/
namespace ScriptProfiling
namespace Session

/-- What may happen to a session: a step of its own, or a use of one of its parts. -/
inductive Act where
  | step (step : Step)
  | operate (op : Operation)
  /-- The host has the sampling begun. -/
  | watch
  /-- The host has the sampling ended, also if it cannot wait for the end. -/
  | unwatch

def act (s : Session) : Act → Session
  | .step step => s.perform step
  | .operate op => { s with aggregator := (s.aggregator.perform op).2 }
  | .watch => { s with monitor := s.monitor.start.value.2 }
  | .unwatch => { s with monitor := s.monitor.stop.state }

/-- A session after all that happens to it. -/
def after (s : Session) (acts : List Act) : Session := acts.foldl act s

/-- Whether a step of the session itself is a start, a reset or a reload that succeeds. -/
def directRenews (s : Session) : Step → Bool
  | .start feed now => (s.start feed now).granted
  | .reset => s.reset.value.1
  | .reload feed => (s.reload feed).result.isOk
  | _ => false

/-- Whether something renews the records or the scripts, also when a command asks for it. -/
def renews (s : Session) : Act → Bool
  | .step step => step.direct?.any s.directRenews
  | .operate op => s.aggregator.clears op
  | .watch | .unwatch => false

/-- Whether nothing of what happens renews the records or the scripts. -/
def undisturbed (s : Session) : List Act → Bool
  | [] => true
  | a :: acts => !s.renews a && (s.act a).undisturbed acts

/-- Rules and scripts are the same, and the records have grown. -/
structure Keeps (s s' : Session) : Prop where
  scripts : s'.scripts = s.scripts
  thresholds : s'.thresholds = s.thresholds
  records : s.aggregator.records.Grows s'.aggregator.records

namespace Keeps

theorem refl (s : Session) : Keeps s s := ⟨rfl, rfl, .refl _⟩

theorem trans {s s' s'' : Session} (h : Keeps s s') (h' : Keeps s' s'') : Keeps s s'' :=
  ⟨h'.scripts.trans h.scripts, h'.thresholds.trans h.thresholds, h.records.trans h'.records⟩

end Keeps

section Operations

variable (s : Session)

/-- The operations that a step of the session itself makes on the aggregator. -/
def directOperations : Step → List Operation
  | .start feed now => if (s.start feed now).granted then [.reset, .start now] else []
  | .stop now => if s.active then [.stop now] else []
  | .reset => if s.active then [] else [.reset]
  | .timeout generation now =>
    if generation ≠ s.generation || !s.active then [] else [.stop now]
  | .record r => [.record r]
  | _ => []

/-- A session uses its aggregator by operations only. -/
theorem aggregator_performDirect {step : Step} (hdirect : step.isDirect = true) :
    (s.perform step).aggregator = s.aggregator.operate (s.directOperations step) := by
  have heffect := s.effect_perform hdirect
  generalize s.perform step = s' at heffect ⊢
  cases heffect with
  | startRefused refused =>
    rw [directOperations, refused]
    rfl
  | started idle granted loaded =>
    rw [directOperations, granted]
    rfl
  | stopRefused idle refused =>
    rw [directOperations, idle]
    rfl
  | stopped active waited granted =>
    rw [directOperations, active]
    rfl
  | stopFailed active endless failed =>
    rw [directOperations, active]
    rfl
  | resetRefused active refused =>
    rw [directOperations, active]
    rfl
  | cleared idle granted =>
    rw [directOperations, idle]
    rfl
  | timeoutLate late =>
    rw [directOperations, late]
    rfl
  | timedOut due active waited succeeded =>
    rw [directOperations, due]
    rfl
  | timedOutFailed due active endless failed =>
    rw [directOperations, due]
    rfl
  | _ => rfl

/-- The operations of any step. -/
def operations (step : Step) : List Operation := (step.direct?.map s.directOperations).getD []

theorem aggregator_perform (step : Step) :
    (s.perform step).aggregator = s.aggregator.operate (s.operations step) := by
  rcases s.direct_cases step with ⟨hnone, hstate⟩ | ⟨direct, hsome, hdirect, hstate⟩
  · rw [hstate, operations, hnone]
    rfl
  · rw [hstate, operations, hsome]
    exact s.aggregator_performDirect hdirect

theorem ne_reset_of_mem_directOperations {step : Step} (h : s.directRenews step = false)
    {op : Operation} (hop : op ∈ s.directOperations step) : op ≠ .reset := by
  cases step with
  | start feed now =>
    have hrefused : (s.start feed now).granted = false := h
    simp [directOperations, hrefused] at hop
  | reset =>
    rcases s.reset_cases with ⟨hactive, -⟩ | ⟨-, hvalue⟩
    · simp [directOperations, hactive] at hop
    · rw [directRenews, hvalue] at h
      cases h
  | stop now =>
    simp only [directOperations, List.mem_ite_nil_right, List.mem_singleton] at hop
    rw [hop.2]
    exact Operation.noConfusion
  | timeout generation now =>
    simp only [directOperations, List.mem_ite_nil_left, List.mem_singleton] at hop
    rw [hop.2]
    exact Operation.noConfusion
  | record r =>
    rw [List.mem_singleton.mp hop]
    exact Operation.noConfusion
  | _ => simp [directOperations] at hop

end Operations

section Keeps

variable {s : Session}

theorem ownKeys_act (h : Metrics.OwnKeys s.aggregator.records) (a : Act) :
    Metrics.OwnKeys (s.act a).aggregator.records := by
  cases a with
  | step step =>
    rw [act, aggregator_perform]
    exact Aggregator.ownKeys_operate h _
  | operate op => exact Aggregator.ownKeys_perform h op
  | watch => exact h
  | unwatch => exact h

theorem ownKeys_after (h : Metrics.OwnKeys s.aggregator.records) (acts : List Act) :
    Metrics.OwnKeys (s.after acts).aggregator.records := by
  induction acts generalizing s with
  | nil => exact h
  | cons a acts ih => exact ih (ownKeys_act h a)

theorem ownKeys_create {settings : Settings} {sampler : Option (List Sample)}
    (h : create settings sampler = .ok s) : Metrics.OwnKeys s.aggregator.records := by
  obtain ⟨thresholds, -, h⟩ := bind_eq_ok.mp h
  obtain rfl := pure_eq_ok.mp h
  exact Metrics.ownKeys_empty

theorem scripts_performDirect {step : Step} (hdirect : step.isDirect = true)
    (h : s.directRenews step = false) :
    (s.perform step).scripts = s.scripts ∧ (s.perform step).thresholds = s.thresholds := by
  have heffect := s.effect_perform hdirect
  generalize s.perform step = s' at heffect ⊢
  cases heffect with
  | started idle granted loaded =>
    rw [directRenews, granted] at h
    cases h
  | cleared idle granted =>
    rw [directRenews, granted] at h
    cases h
  | reloaded loaded succeeded =>
    rw [directRenews, succeeded] at h
    cases h
  | _ => exact ⟨rfl, rfl⟩

theorem keeps_performDirect (hkeys : Metrics.OwnKeys s.aggregator.records) {step : Step}
    (hdirect : step.isDirect = true) (h : s.directRenews step = false) :
    Keeps s (s.perform step) := by
  obtain ⟨hscripts, hthresholds⟩ := scripts_performDirect hdirect h
  refine ⟨hscripts, hthresholds, ?_⟩
  rw [aggregator_performDirect s hdirect]
  exact Aggregator.grows_operate hkeys fun op => s.ne_reset_of_mem_directOperations h

theorem keeps_act (hkeys : Metrics.OwnKeys s.aggregator.records) {a : Act}
    (h : s.renews a = false) : Keeps s (s.act a) := by
  cases a with
  | step step =>
    rcases s.direct_cases step with ⟨-, hstate⟩ | ⟨direct, hsome, hdirect, hstate⟩
    · rw [act, hstate]
      exact .refl s
    · have hquiet : s.directRenews direct = false := by simpa [renews, hsome] using h
      rw [act, hstate]
      exact keeps_performDirect hkeys hdirect hquiet
  | operate op => exact ⟨rfl, rfl, Aggregator.grows_perform hkeys h⟩
  | watch => exact ⟨rfl, rfl, .refl _⟩
  | unwatch => exact ⟨rfl, rfl, .refl _⟩

/-- What one act keeps a run of them keeps, as long as nothing is renewed. -/
theorem keeps_after (hkeys : Metrics.OwnKeys s.aggregator.records) {acts : List Act}
    (h : s.undisturbed acts = true) : Keeps s (s.after acts) := by
  induction acts generalizing s with
  | nil => exact .refl s
  | cons a acts ih =>
    obtain ⟨ha, hacts⟩ := (Bool.and_eq_true _ _).mp h
    exact (keeps_act hkeys (by simpa using ha)).trans (ih (ownKeys_act hkeys a) hacts)

end Keeps

/-- A lasting finding of a detection pass is one of every later pass that succeeds, unless a start,
a reset or a reload has succeeded in between. -/
theorem analyze_lasting {settings : Settings} {sampler : Option (List Sample)} {s : Session}
    (hcreate : create settings sampler = .ok s) {before acts : List Act} {issues later : List Issue}
    (h : (s.after before).analyze.result = .ok issues)
    (hquiet : (s.after before).analyze.state.undisturbed acts = true)
    (hlater : ((s.after before).analyze.state.after acts).analyze.result = .ok later) :
    ∀ i ∈ issues, i.site.Lasting → ∃ j ∈ later, i.site.Repeats j.site := by
  intro i hi hlasting
  have hkeys := ownKeys_after (ownKeys_create hcreate) before
  generalize s.after before = s at *
  have hanalyzed : Keeps s (s.act (.step .analyze)) := keeps_act hkeys rfl
  have hkeys' : Metrics.OwnKeys s.analyze.state.aggregator.records :=
    ownKeys_act hkeys (.step .analyze)
  have hkept := hanalyzed.trans (keeps_after hkeys' hquiet)
  have hdetect := detect_of_analyze hlater
  rw [hkept.scripts, hkept.thresholds] at hdetect
  exact detect_grows hkept.records (detect_of_analyze h) hdetect hi hlasting

/-- A join that takes three tenths of a second. -/
def slowMorning : List Act :=
  [.step (.start ⟨[], none, [], 0⟩ (.zero false)),
    .step (.record (.span ⟨"shop.sk", 1, "event"⟩ (.int 300000000) "on join"))]

/-- Resets are refused while the session runs; a duration is negative, another key shares the line,
a command stops the session, and the host goes on without it. -/
def calmAfternoon : List Act :=
  let join : MetricKey := ⟨"shop.sk", 1, "event"⟩
  [.step .reset, .operate .reset, .step (.record (.span join (.int (-5)) "on join")),
    .step (.record (.replay [⟨⟨"shop.sk", 1, "loop"⟩, "", none⟩])), .step (.load (.int 3)),
    .step (.command "profile" ⟨[], none, [], 0⟩ (.zero false) [.text "STOP"]), .unwatch,
    .operate (.start (.zero false)), .operate (.record (.occurrence join "")), .step .analyze]

theorem analyze_lasting_calmAfternoon :
    create shortSession.settings shortSession.monitor.sampler = .ok shortSession ∧
    (shortSession.after slowMorning).analyze.state.undisturbed calmAfternoon = true ∧
    ∃ issues later, (shortSession.after slowMorning).analyze.result = .ok issues ∧
      ((shortSession.after slowMorning).analyze.state.after calmAfternoon).analyze.result =
        .ok later ∧
      ∃ j ∈ later,
        j.site = ⟨.slowEvent, .critical, "shop.sk", 1, some ⟨"shop.sk", 1, "event"⟩⟩ := by
  have hcreate : create shortSession.settings shortSession.monitor.sampler = .ok shortSession :=
    rfl
  have hquiet :
      (shortSession.after slowMorning).analyze.state.undisturbed calmAfternoon = true := by
    decide +kernel
  have hok : (shortSession.after slowMorning).analyze.result.isOk = true := by decide +kernel
  have hlaterOk : ((shortSession.after slowMorning).analyze.state.after
      calmAfternoon).analyze.result.isOk = true := by
    decide +kernel
  obtain ⟨issues, hissues⟩ := isOk_iff.mp hok
  obtain ⟨later, hlater⟩ := isOk_iff.mp hlaterOk
  have hslow : Detection.verdict (shortSession.after slowMorning).aggregator.snapshot
      (shortSession.after slowMorning).scripts (shortSession.after slowMorning).thresholds
      (shortSession.after slowMorning).watchedLoad Detection.notAtLeast (.slow 0) =
        some ⟨.slowEvent, .critical, "shop.sk", 1, some ⟨"shop.sk", 1, "event"⟩⟩ := by
    decide +kernel
  obtain ⟨i, hi, hsite⟩ := (accounts_of_detect (detect_of_analyze hissues)).exists_issue hslow
  obtain ⟨j, hj, hrepeats⟩ := analyze_lasting hcreate hissues hquiet hlater i hi
    (by rw [hsite]; decide)
  rw [hsite] at hrepeats
  exact ⟨hcreate, hquiet, issues, later, hissues, hlater, j, hj, hrepeats.eq_of_slowEvent rfl⟩

end Session
end ScriptProfiling
