import ScriptProfiling.Proofs.Session.Blame

/-!
# Reports only look

A host works with a session, its aggregator and its monitor, and reads two clocks that move only
when they are moved. To look at the session, by an analysis, a report, a status, a snapshot, a
completion or the commands that do no more than this, changes at most the issues that the session
keeps, and these are not read again: whatever is looked at in between, all that the host does comes
to the same results as without it.
-/
namespace ScriptProfiling

/-- What the clocks show, the one for sessions and the one for spans. -/
structure Clocks where
  seconds : Binary64
  nanos : Int

namespace Session

/-- What a host may do with a session. -/
inductive Deed where
  | act (a : Act)
  | snapshot
  | complete (args : List Value)
  /-- Opens a span that a later recording closes. -/
  | beginSpan (now : Int) (identifier : String)

/-- What the host is told. -/
inductive Answer where
  | nothing
  | flag (b : Bool)
  | scripts (scripts : Scripts)
  | issues (issues : List Issue)
  | text (text : String)
  | data (json : Json)
  | status (status : SessionStatus)
  | lines (lines : List String)
  | words (words : List String)
  | load (v : Value)
  | metrics (metrics : Metrics)
  | handle (h : SpanHandle)

section Answers

variable (s : Session)

def operationAnswer : Operation → Except Fault Answer
  | .start now => .ok (.flag (s.aggregator.start now).value.1)
  | .stop now => .ok (.flag (s.aggregator.stop now).value.1)
  | .reset => .ok (.flag s.aggregator.reset.value.1)
  | .record r =>
    match (s.aggregator.record r).1 with
    | some f => .error f
    | none => .ok .nothing

def stepAnswer : Step → Except Fault Answer
  | .start feed now => (s.start feed now).result.map .flag
  | .stop now => (s.stop now).result.map .flag
  | .reset => .ok (.flag s.reset.value.1)
  | .reload feed => (s.reload feed).result.map .scripts
  | .timeout generation now => (s.timeout generation now).result.map fun _ => .nothing
  | .look => .ok (.flag s.monitor.running)
  | .poll => .ok .nothing
  | .analyze => s.analyze.result.map .issues
  | .report now detailed => (s.report now detailed).result.map .text
  | .reportData now => (s.reportData now).result.map .data
  | .status now => .ok (.status (s.status now))
  | .command name feed now args => (Commands.handle s name feed now args).result.map .lines
  | .load v => (s.monitor.update v).result.map .load
  | .sample => s.monitor.sample.result.map .load
  | .record r => s.operationAnswer (.record r)

/-- What a deed comes to, also if it fails. -/
def answer : Deed → Except Fault Answer
  | .act (.step step) => s.stepAnswer step
  | .act (.operate op) => s.operationAnswer op
  | .act .watch => .ok (.flag s.monitor.start.value.1)
  | .act .unwatch => s.monitor.stop.result.map fun _ => .nothing
  | .snapshot => .ok (.metrics s.aggregator.snapshot)
  | .complete args => (Commands.complete args).map .words
  | .beginSpan now identifier => .ok (.handle (Aggregator.beginSpan now identifier))

/-- The session after a deed. -/
def deed : Deed → Session
  | .act a => s.act a
  | .snapshot | .complete _ | .beginSpan .. => s

end Answers

/-- Whether a step that the session itself takes does no more than look. -/
def Step.looks : Step → Bool
  | .analyze | .report .. | .reportData _ | .status _ => true
  | _ => false

/-- Whether a deed does no more than look. A command without a step of its own only tells. -/
def Deed.looks : Deed → Bool
  | .act (.step step) => step.direct?.all Step.looks
  | .act _ | .beginSpan .. => false
  | .snapshot | .complete _ => true

/-- Whether a step is a pass of detection. Without records no report needs one. -/
def detects (s : Session) : Step → Bool
  | .analyze | .reportData _ => true
  | .report .. => !s.aggregator.snapshot.isEmpty
  | _ => false

def Deed.step? : Deed → Option Step
  | .act (.step step) => step.direct?
  | _ => none

/-- Two sessions that differ in no more than the issues that they keep. -/
def Alike (s s' : Session) : Prop := ∃ issues, s' = { s with issues := issues }

/-- Two outcomes that are the same but for the issues that the sessions keep. -/
structure AlikeOutcomes {α : Type} (o o' : Outcome Session α) : Prop where
  result : o'.result = o.result
  state : Alike o.state o'.state

namespace Alike

variable {s s' s'' : Session}

theorem refl (s : Session) : Alike s s := ⟨s.issues, rfl⟩

theorem trans (h : Alike s s') (h' : Alike s' s'') : Alike s s'' := by
  obtain ⟨issues, rfl⟩ := h
  obtain ⟨later, rfl⟩ := h'
  exact ⟨later, rfl⟩

theorem reload (h : Alike s s') (feed : Feed) : AlikeOutcomes (s.reload feed) (s'.reload feed) := by
  obtain ⟨issues, rfl⟩ := h
  unfold Session.reload
  obtain ⟨batch, broken⟩ := Batch.ofItems feed.room feed.items
  cases broken with
  | some f => exact ⟨rfl, issues, rfl⟩
  | none =>
    cases feed.fault with
    | some f => exact ⟨rfl, issues, rfl⟩
    | none => exact ⟨rfl, issues, rfl⟩

theorem begin (h : Alike s s') (now : Binary64) :
    Alike (s.begin now).value (s'.begin now).value := by
  obtain ⟨issues, rfl⟩ := h
  exact .refl _

theorem start (h : Alike s s') (feed : Feed) (now : Binary64) :
    AlikeOutcomes (s.start feed now) (s'.start feed now) := by
  have hactive : s'.active = s.active := by
    obtain ⟨issues, rfl⟩ := h
    rfl
  obtain ⟨hresult, hstate⟩ := h.reload feed
  unfold Session.start
  dsimp only
  rw [hactive, hresult]
  split
  · exact ⟨rfl, h⟩
  · split
    · exact ⟨rfl, hstate⟩
    · exact ⟨rfl, hstate.begin now⟩

theorem stop (h : Alike s s') (now : Binary64) : AlikeOutcomes (s.stop now) (s'.stop now) := by
  obtain ⟨issues, rfl⟩ := h
  unfold Session.stop
  dsimp only
  split
  · exact ⟨rfl, issues, rfl⟩
  · split
    · exact ⟨rfl, issues, rfl⟩
    · exact ⟨rfl, issues, rfl⟩

theorem reset (h : Alike s s') :
    s'.reset.value.1 = s.reset.value.1 ∧ Alike s.reset.value.2 s'.reset.value.2 := by
  obtain ⟨issues, rfl⟩ := h
  unfold Session.reset
  split
  · exact ⟨rfl, issues, rfl⟩
  · exact ⟨rfl, .refl _⟩

theorem timeout (h : Alike s s') (generation : Int) (now : Binary64) :
    AlikeOutcomes (s.timeout generation now) (s'.timeout generation now) := by
  obtain ⟨hresult, hstate⟩ := h.stop now
  obtain ⟨issues, rfl⟩ := h
  unfold Session.timeout
  split
  · exact ⟨rfl, issues, rfl⟩
  · refine ⟨?_, hstate⟩
    dsimp only
    rw [hresult]

theorem analyze (h : Alike s s') : AlikeOutcomes s.analyze s'.analyze := by
  obtain ⟨issues, rfl⟩ := h
  constructor
  · rw [result_analyze, result_analyze]
    rfl
  · rw [state_analyze, state_analyze]
    exact ⟨_, rfl⟩

theorem afterAnalysis {α : Type} (h : Alike s s') (f : List Issue → Except Fault α) :
    AlikeOutcomes (s.afterAnalysis f) (s'.afterAnalysis f) := by
  refine ⟨?_, h.analyze.state⟩
  change s'.analyze.result >>= f = s.analyze.result >>= f
  rw [h.analyze.result]

theorem report (h : Alike s s') (now : Binary64) (detailed : Bool) :
    AlikeOutcomes (s.report now detailed) (s'.report now detailed) := by
  have hanalyzed := h.afterAnalysis fun issues =>
    Report.render s.thresholds s.settings.defaultLoad (s.reportInput issues now) detailed
  obtain ⟨issues, rfl⟩ := h
  unfold Session.report
  split
  · exact ⟨rfl, issues, rfl⟩
  · exact hanalyzed

theorem reportData (h : Alike s s') (now : Binary64) :
    AlikeOutcomes (s.reportData now) (s'.reportData now) := by
  have hanalyzed := h.afterAnalysis fun issues => Report.data (s.reportInput issues now)
  obtain ⟨issues, rfl⟩ := h
  exact hanalyzed

section Commands

variable (h : Alike s s') (name : String) (feed : Feed) (now : Binary64)

include h

theorem startCommand :
    AlikeOutcomes (Commands.start s name feed now) (Commands.start s' name feed now) := by
  obtain ⟨hresult, hstate⟩ := h.start feed now
  obtain ⟨issues, rfl⟩ := h
  unfold Commands.start
  split
  · exact ⟨rfl, issues, rfl⟩
  · refine ⟨?_, hstate⟩
    dsimp only
    rw [hresult]

theorem stopCommand : AlikeOutcomes (Commands.stop s name now) (Commands.stop s' name now) := by
  obtain ⟨hresult, hstate⟩ := h.stop now
  obtain ⟨issues, rfl⟩ := h
  unfold Commands.stop
  split
  · exact ⟨rfl, issues, rfl⟩
  · refine ⟨?_, hstate⟩
    dsimp only
    rw [hresult]

theorem reportCommand (detailed : Bool) :
    AlikeOutcomes (Commands.report s now detailed) (Commands.report s' now detailed) := by
  obtain ⟨hresult, hstate⟩ := h.report now detailed
  have hformat : s'.settings = s.settings := by
    obtain ⟨issues, rfl⟩ := h
    rfl
  unfold Commands.report
  dsimp only
  rw [hresult, hformat]
  split
  · exact ⟨rfl, hstate⟩
  · exact ⟨rfl, hstate⟩

theorem resetCommand : AlikeOutcomes (Commands.reset s) (Commands.reset s') := by
  obtain ⟨hresult, hstate⟩ := h.reset
  refine ⟨?_, hstate⟩
  unfold Commands.reset
  dsimp only
  rw [hresult]

theorem command (args : List Value) :
    AlikeOutcomes (Commands.handle s name feed now args)
      (Commands.handle s' name feed now args) := by
  have hstatus : s'.status now = s.status now := by
    obtain ⟨issues, rfl⟩ := h
    rfl
  unfold Commands.handle
  rw [hstatus]
  cases args with
  | nil => exact ⟨rfl, h⟩
  | cons first options =>
    dsimp only
    cases Commands.lowerWord first with
    | error f => exact ⟨rfl, h⟩
    | ok word =>
      dsimp only
      cases Commands.subcommands.find? (·.name == word) with
      | none => exact ⟨rfl, h⟩
      | some subcommand =>
        cases subcommand with
        | start => exact h.startCommand name feed now
        | stop => exact h.stopCommand name now
        | reset => exact h.resetCommand
        | report =>
          dsimp only
          cases Commands.isDetailed options with
          | error f => exact ⟨rfl, h⟩
          | ok detailed => exact h.reportCommand now detailed
        | status => exact ⟨rfl, h⟩
        | help => exact ⟨rfl, h⟩

end Commands

/-- What a step comes to does not depend on the issues that are kept. -/
theorem stepAnswer (h : Alike s s') (step : Step) : s'.stepAnswer step = s.stepAnswer step := by
  cases step with
  | start feed now => simp only [Session.stepAnswer, (h.start feed now).result]
  | stop now => simp only [Session.stepAnswer, (h.stop now).result]
  | reset => simp only [Session.stepAnswer, h.reset.1]
  | reload feed => simp only [Session.stepAnswer, (h.reload feed).result]
  | timeout generation now => simp only [Session.stepAnswer, (h.timeout generation now).result]
  | analyze => simp only [Session.stepAnswer, h.analyze.result]
  | report now detailed => simp only [Session.stepAnswer, (h.report now detailed).result]
  | reportData now => simp only [Session.stepAnswer, (h.reportData now).result]
  | command name feed now args =>
    simp only [Session.stepAnswer, (h.command name feed now args).result]
  | _ =>
    obtain ⟨issues, rfl⟩ := h
    rfl

theorem answer (h : Alike s s') (d : Deed) : s'.answer d = s.answer d := by
  cases d with
  | act a =>
    cases a with
    | step step => exact h.stepAnswer step
    | _ =>
      obtain ⟨issues, rfl⟩ := h
      rfl
  | _ =>
    obtain ⟨issues, rfl⟩ := h
    rfl

theorem perform (h : Alike s s') (step : Step) : Alike (s.perform step) (s'.perform step) := by
  cases step with
  | start feed now => exact (h.start feed now).state
  | stop now => exact (h.stop now).state
  | reset => exact h.reset.2
  | reload feed => exact (h.reload feed).state
  | timeout generation now => exact (h.timeout generation now).state
  | analyze => exact h.analyze.state
  | report now detailed => exact (h.report now detailed).state
  | reportData now => exact (h.reportData now).state
  | command name feed now args => exact (h.command name feed now args).state
  | _ =>
    obtain ⟨issues, rfl⟩ := h
    exact ⟨issues, rfl⟩

theorem deed (h : Alike s s') (d : Deed) : Alike (s.deed d) (s'.deed d) := by
  cases d with
  | act a =>
    cases a with
    | step step => exact h.perform step
    | _ =>
      obtain ⟨issues, rfl⟩ := h
      exact ⟨issues, rfl⟩
  | _ => exact h

end Alike

section Looks

variable (s : Session)

theorem perform_of_looks {step : Step} (h : step.looks = true) :
    s.perform step =
      { s with issues := if s.detects step then s.redetected else s.issues } := by
  cases step with
  | analyze => exact s.state_analyze
  | reportData now => exact s.state_analyze
  | report now detailed =>
    rw [perform, state_report, detects]
    cases s.aggregator.snapshot.isEmpty <;> rfl
  | status now => rfl
  | _ => cases h

/-- A look leaves everything as it is but the issues, and these only a pass of detection renews. -/
theorem deed_of_looks {d : Deed} (h : d.looks = true) :
    s.deed d =
      { s with issues := if d.step?.any s.detects then s.redetected else s.issues } := by
  cases d with
  | act a =>
    cases a with
    | step step =>
      have hlooks : step.direct?.all Step.looks = true := h
      change s.perform step =
        { s with issues := if step.direct?.any s.detects then s.redetected else s.issues }
      rcases s.direct_cases step with ⟨hnone, hstate⟩ | ⟨direct, hsome, -, hstate⟩
      · rw [hstate, hnone]
        rfl
      · rw [hsome] at hlooks ⊢
        rw [hstate]
        exact s.perform_of_looks hlooks
    | _ => cases h
  | beginSpan now identifier => cases h
  | _ => rfl

theorem alike_of_looks {d : Deed} (h : d.looks = true) : Alike s (s.deed d) :=
  ⟨_, s.deed_of_looks h⟩

end Looks

/-- What stands in a run: the clocks are moved, also back, or a deed is done at what they show. -/
inductive Entry where
  | tick (clocks : Clocks)
  | deed (d : Clocks → Deed)

/-- A look that is put into a run. -/
structure Look where
  deed : Clocks → Deed
  looks : ∀ clocks, (deed clocks).looks = true

end Session

open Session

/-- A session and the clocks beside it. -/
structure Scene where
  session : Session
  clocks : Clocks

namespace Scene

/-- The scene after an entry of a run, or after a look. -/
def pass (scene : Scene) : Entry ⊕ Look → Scene
  | .inl (.tick clocks) => { scene with clocks := clocks }
  | .inl (.deed d) => { scene with session := scene.session.deed (d scene.clocks) }
  | .inr look => { scene with session := scene.session.deed (look.deed scene.clocks) }

def after (scene : Scene) (script : List (Entry ⊕ Look)) : Scene := script.foldl pass scene

/-- What the deeds of a run come to, in turn, without what the looks tell. -/
def answers (scene : Scene) : List (Entry ⊕ Look) → List (Except Fault Answer)
  | [] => []
  | .inl (.deed d) :: script =>
    scene.session.answer (d scene.clocks) :: (scene.pass (.inl (.deed d))).answers script
  | e :: script => (scene.pass e).answers script

/-- The clocks show the same, and the sessions differ at most in the issues that they keep. -/
structure Alike (scene scene' : Scene) : Prop where
  clocks : scene'.clocks = scene.clocks
  session : scene.session.Alike scene'.session

variable {scene scene' : Scene}

theorem Alike.pass (h : Alike scene scene') (e : Entry ⊕ Look) :
    Alike (scene.pass e) (scene'.pass e) := by
  obtain ⟨hclocks, hsession⟩ := h
  match e with
  | .inl (.tick clocks) => exact ⟨rfl, hsession⟩
  | .inl (.deed d) =>
    refine ⟨hclocks, ?_⟩
    simpa only [Scene.pass, hclocks] using hsession.deed (d scene.clocks)
  | .inr look =>
    refine ⟨hclocks, ?_⟩
    simpa only [Scene.pass, hclocks] using hsession.deed (look.deed scene.clocks)

theorem Alike.look (h : Alike scene scene') (look : Look) :
    Alike scene (scene'.pass (.inr look)) :=
  ⟨h.clocks, h.session.trans (scene'.session.alike_of_looks (look.looks scene'.clocks))⟩

theorem Alike.after (h : Alike scene scene') (script : List (Entry ⊕ Look)) :
    Alike (scene.after (script.filter Sum.isLeft)) (scene'.after script) := by
  induction script generalizing scene scene' with
  | nil => exact h
  | cons e script ih =>
    cases e with
    | inl entry => exact ih (h.pass (.inl entry))
    | inr look => exact ih (h.look look)

theorem Alike.answers (h : Alike scene scene') (script : List (Entry ⊕ Look)) :
    scene'.answers script = scene.answers (script.filter Sum.isLeft) := by
  induction script generalizing scene scene' with
  | nil => rfl
  | cons e script ih =>
    match e with
    | .inl (.tick clocks) => exact ih (h.pass (.inl (.tick clocks)))
    | .inl (.deed d) =>
      have hfirst : scene'.session.answer (d scene'.clocks) =
          scene.session.answer (d scene.clocks) := by
        rw [h.clocks, h.session.answer]
      have hrest := ih (h.pass (.inl (.deed d)))
      exact congrArg₂ List.cons hfirst hrest
    | .inr look => exact ih (h.look look)

/-- Whatever looks are put into a run, and wherever, its own deeds come to what they come to without
them, and in the end the clocks and everything but the issues that the session keeps are the same.
Each look leaves everything but these as it finds it; after a pass of detection that gives a result
they are what was detected in the records, the scripts, the limits and the load of that moment. -/
theorem looks_unseen (scene : Scene) (script : List (Entry ⊕ Look)) :
    scene.answers script = scene.answers (script.filter Sum.isLeft) ∧
    Alike (scene.after (script.filter Sum.isLeft)) (scene.after script) ∧
    ∀ look : Look,
      let s := (scene.after script).session
      let d := look.deed (scene.after script).clocks
      (scene.after script).pass (.inr look) = { scene.after script with session := { s with
        issues := if d.step?.any s.detects then
            (detect s.aggregator.snapshot s.scripts s.thresholds s.watchedLoad).toOption.getD
              s.issues
          else s.issues } } := by
  have halike : Alike scene scene := ⟨rfl, .refl scene.session⟩
  refine ⟨halike.answers script, halike.after script, ?_⟩
  intro look s d
  have hdeed := s.deed_of_looks (look.looks (scene.after script).clocks)
  unfold redetected at hdeed
  simp only [pass]
  exact congrArg (Scene.mk · (scene.after script).clocks) hdeed

end Scene
end ScriptProfiling
