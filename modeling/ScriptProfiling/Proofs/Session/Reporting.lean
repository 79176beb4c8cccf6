import ScriptProfiling.Proofs.Report.Totality
import ScriptProfiling.Proofs.Session.Isolation

/-!
# When a session can be reported on

Whatever a session has been told and whatever scripts it has loaded, its analysis and both
its reports give a result as long as times can be divided and numbers be written. The analysis
writes the numbers that its issues tell, and both loads if the host is strained. The text report
writes the executions, the load that stands, and the numbers of what it lists, of which the lines
of records are the host's own. Where one of these cannot be written, one of the three fails: the
limits are exact.
-/
namespace ScriptProfiling

namespace Monitor

variable {m : Monitor} {default : Number}

theorem stands_update (h : m.current.Stands default) (v : Value) :
    (m.update v).state.current.Stands default := by
  unfold update
  split
  · split <;> exact h
  · next load _ =>
    split
    · next husable =>
      rw [state_accept]
      exact Or.inr ⟨load, husable, rfl⟩
    · exact h

theorem stands_sample (h : m.current.Stands default) : m.sample.state.current.Stands default := by
  unfold sample
  split
  · exact h
  · next samples _ =>
    have hleft : { m with sampler := some (nextSample samples).2 }.current.Stands default := h
    dsimp only
    split
    · exact stands_update hleft _
    · exact hleft

theorem stands_poll (h : m.current.Stands default) : m.poll.current.Stands default := by
  unfold poll
  split
  · exact stands_sample h
  · exact h

theorem stands_start (h : m.current.Stands default) :
    m.start.value.2.current.Stands default := by
  unfold start
  split
  · exact h
  · exact stands_sample h

end Monitor

namespace Session

/-- What the parts of a session must keep to for every report of it. -/
structure Reportable (s : Session) : Prop where
  records : ∀ r ∈ s.aggregator.snapshot.values, r.Measured
  executions : WithinDigits s.aggregator.snapshot.executions
  scripts : ∀ info ∈ s.scripts.values, info.Tellable s.thresholds
  /-- The load that stands can be a floating-point number, wherever it is looked at. -/
  load : s.settings.loadAware.truthy = true ∨ s.aggregator.snapshot.isEmpty = false →
    s.currentLoad.IsLoad
  /-- So can the limit, where a load that is not at least the limit is told with it. -/
  limit : ∀ x, usableLoad? s.watchedLoad = .ok (some x) → x.ge s.thresholds.lowLoad = false →
    s.aggregator.snapshot.values ≠ [] → s.thresholds.lowLoad.toFloat.isOk = true
  /-- What a text report lists can be written. -/
  printable : ∀ issues now, s.analyze.result = .ok issues →
    s.aggregator.snapshot.isEmpty = false →
    Report.Writable s.thresholds (s.reportInput issues now)

/-- Whatever the text report lists, it can be written if all numbers can. -/
theorem writable_reportInput {s : Session} {issues : List Issue}
    (hrecords : ∀ r ∈ s.aggregator.snapshot.values, WithinDigits r.key.line)
    (hissues : ∀ i ∈ issues, WithinDigits i.line)
    (hscripts : ∀ info ∈ s.scripts.values, info.Countable) (now : Binary64) :
    Report.Writable s.thresholds (s.reportInput issues now) :=
  .of_forall hrecords hissues hscripts

/-- What the parts of a session that reports read are like, whatever has happened. -/
structure Supplied (settings : Settings) (thresholds : Thresholds) (s : Session) : Prop where
  configured : s.settings = settings
  limits : s.thresholds = thresholds
  amounts : ∀ info ∈ s.scripts.values, info.ShortAmounts
  load : s.currentLoad.Stands settings.defaultLoad

namespace Supplied

variable {settings : Settings} {thresholds : Thresholds} {s : Session}

theorem create {sampler : Option (List Sample)} (h : Session.create settings sampler = .ok s) :
    Supplied settings s.thresholds s := by
  obtain ⟨thresholds, -, h⟩ := bind_eq_ok.mp h
  obtain rfl := pure_eq_ok.mp h
  exact ⟨rfl, rfl, nofun, Or.inl rfl⟩

/-- Aggregator, issues, timer and generation play no part. -/
theorem congr (h : Supplied settings thresholds s) {s' : Session}
    (hsettings : s'.settings = s.settings) (hthresholds : s'.thresholds = s.thresholds)
    (hscripts : s'.scripts = s.scripts) (hmonitor : s'.monitor.current = s.monitor.current) :
    Supplied settings thresholds s' :=
  ⟨hsettings.trans h.configured, hthresholds.trans h.limits, hscripts ▸ h.amounts,
    by rw [currentLoad, hmonitor]; exact h.load⟩

theorem withScripts (h : Supplied settings thresholds s) {scripts : Scripts}
    (hscripts : ∀ info ∈ scripts.values, info.ShortAmounts) :
    Supplied settings thresholds { s with scripts := scripts } :=
  ⟨h.configured, h.limits, hscripts, h.load⟩

theorem withMonitor (h : Supplied settings thresholds s) {m : Monitor}
    (hm : m.current.Stands settings.defaultLoad) :
    Supplied settings thresholds { s with monitor := m } :=
  ⟨h.configured, h.limits, h.amounts, hm⟩

theorem begin (h : Supplied settings thresholds s) (now : Binary64) :
    Supplied settings thresholds (s.begin now).value := by
  have hload : (s.begin now).value.monitor.current.Stands settings.defaultLoad := by
    unfold Session.begin
    dsimp only
    split
    · exact Monitor.stands_start h.load
    · exact h.load
  exact ⟨h.configured, h.limits, h.amounts, hload⟩

theorem performDirect (h : Supplied settings thresholds s) {step : Step}
    (hdirect : step.isDirect = true) : Supplied settings thresholds (s.perform step) := by
  have heffect := s.effect_perform hdirect
  generalize s.perform step = s' at heffect ⊢
  cases heffect with
  | @started feed now batch idle granted loaded =>
    have hamounts := Batch.shortAmounts feed.room feed.items
    rw [loaded] at hamounts
    exact (h.withScripts hamounts).begin now
  | cleared idle granted =>
    have hempty : Supplied settings thresholds { s with scripts := .empty } := h.withScripts nofun
    exact hempty.congr rfl rfl rfl rfl
  | @reloaded feed batch loaded succeeded =>
    have hamounts := Batch.shortAmounts feed.room feed.items
    rw [loaded] at hamounts
    exact h.withScripts hamounts
  | loaded v => exact h.withMonitor (Monitor.stands_update h.load v)
  | sampled => exact h.withMonitor (Monitor.stands_sample h.load)
  | polled => exact h.withMonitor (Monitor.stands_poll h.load)
  | looked => exact h.withMonitor (by rw [Monitor.current_noticed]; exact h.load)
  | _ => exact h.congr rfl rfl rfl rfl

theorem perform (h : Supplied settings thresholds s) (step : Step) :
    Supplied settings thresholds (s.perform step) := by
  rcases s.direct_cases step with ⟨-, hstate⟩ | ⟨direct, -, hdirect, hstate⟩
  · rw [hstate]
    exact h
  · rw [hstate]
    exact h.performDirect hdirect

theorem run (h : Supplied settings thresholds s) (steps : List Step) :
    Supplied settings thresholds (s.run steps) := by
  induction steps generalizing s with
  | nil => exact h
  | cons step steps ih => exact ih (h.perform step)

end Supplied

section Results

variable (s : Session)

theorem isOk_analyze : s.analyze.result.isOk =
    (Detection.found s.aggregator.snapshot s.scripts s.thresholds s.watchedLoad).isOk := by
  rw [result_analyze]
  exact isOk_map _ _

/-- An analysis gives what is found, in another order. -/
theorem exists_analyze {P : Issue → Prop} [DecidablePred P]
    (h : (Detection.found s.aggregator.snapshot s.scripts s.thresholds
      s.watchedLoad).toOption.any (fun found => decide (∀ i ∈ found, P i)) = true) :
    ∃ issues, s.analyze.result = .ok issues ∧ ∀ i ∈ issues, P i := by
  obtain ⟨found, hfound, hall⟩ := (Option.any_eq_true _ _).mp h
  refine ⟨Detection.bySeverity found, ?_, fun i hi =>
    of_decide_eq_true hall i (List.mem_mergeSort.mp hi)⟩
  rw [result_analyze, detect, toOption_eq_some.mp hfound]
  rfl

theorem isOk_afterAnalysis {α : Type} (f : List Issue → Except Fault α) :
    (s.afterAnalysis f).result.isOk = true ↔
      ∃ issues, s.analyze.result = .ok issues ∧ (f issues).isOk = true :=
  isOk_bind

variable {s} {settings : Settings} {thresholds : Thresholds}

/-- Once a session has been analyzed its report fails in what it writes only. Without records it
writes nothing that can fail. -/
theorem isOk_report_of_analyze {issues : List Issue} (hanalyze : s.analyze.result = .ok issues)
    (now : Binary64) (detailed : Bool) :
    (s.report now detailed).result.isOk = true ↔ (Report.render s.thresholds
      s.settings.defaultLoad (s.reportInput issues now) detailed).isOk = true := by
  unfold report
  split
  · next hempty =>
    have hnone : (s.reportInput issues now).metrics.isEmpty = true := hempty
    rw [Report.render, if_pos hnone]
  · rw [isOk_afterAnalysis, hanalyze]
    simp only [Except.ok.injEq, exists_eq_left']

section Supplied

variable (h : Supplied settings thresholds s) (hcounted : Metrics.Counted s.aggregator.snapshot)

include h

theorem isOk_analyze_iff (hrecords : ∀ r ∈ s.aggregator.snapshot.values, r.Measured)
    (hcounts : ∀ r ∈ s.aggregator.snapshot.values, WithinDigits r.count) :
    s.analyze.result.isOk = true ↔ (∀ info ∈ s.scripts.values, info.Tellable s.thresholds) ∧
      (s.settings.loadAware.truthy = true → s.currentLoad.IsLoad) ∧
      ∀ x, usableLoad? s.watchedLoad = .ok (some x) → x.ge s.thresholds.lowLoad = false →
        s.aggregator.snapshot.values ≠ [] → s.thresholds.lowLoad.toFloat.isOk = true := by
  have hchecked : ∀ r ∈ s.aggregator.snapshot.values,
      (Detection.checkRecord s.thresholds r).isOk = true :=
    fun r hr => Detection.isOk_checkRecord (hrecords r hr) (hcounts r hr)
  have hscripts : (∀ info ∈ s.scripts.values,
      (Detection.checkScript s.thresholds s.aggregator.snapshot info).isOk = true) ↔
      ∀ info ∈ s.scripts.values, info.Tellable s.thresholds :=
    forall₂_congr fun info hinfo => Detection.isOk_checkScript hcounts (h.amounts info hinfo)
  obtain ⟨x, hx⟩ := h.load.exists_number
  rw [s.isOk_analyze, Detection.isOk_found, and_iff_right hchecked, hscripts, watchedLoad, hx]
  refine and_congr_right fun _ => ?_
  cases s.settings.loadAware.truthy with
  | true =>
    simp only [if_true, forall_const]
    exact Detection.isOk_loadIssues (fun r hr => (hrecords r hr).total) x
  | false =>
    exact iff_of_true rfl ⟨fun h => absurd h Bool.false_ne_true, fun x hx => by cases hx⟩

theorem isOk_reportData_iff {issues : List Issue} (hanalyze : s.analyze.result = .ok issues)
    (now : Binary64) : (s.reportData now).result.isOk = true ↔
      ∀ r ∈ s.aggregator.snapshot.values, r.Measured := by
  obtain ⟨x, hx⟩ := h.load.exists_number
  have hinput : (s.reportInput issues now).load = x.toValue := hx
  rw [reportData, isOk_afterAnalysis, hanalyze]
  simp only [Except.ok.injEq, exists_eq_left', Report.isOk_data hinput]
  rfl

/-- A session that watches its load can be reported on once it can be analyzed, if all numbers
that a report may write can be written. -/
theorem Supplied.reportable (haware : settings.loadAware.truthy = true)
    (hrecords : ∀ r ∈ s.aggregator.snapshot.values,
      r.Measured ∧ WithinDigits r.count ∧ WithinDigits r.key.line)
    (hexecutions : WithinDigits s.aggregator.snapshot.executions)
    (hscripts : ∀ info ∈ s.scripts.values, info.Countable) {issues : List Issue}
    (hanalyze : s.analyze.result = .ok issues) (hissues : ∀ i ∈ issues, WithinDigits i.line) :
    s.Reportable := by
  have hmeasured : ∀ r ∈ s.aggregator.snapshot.values, r.Measured := fun r hr => (hrecords r hr).1
  obtain ⟨htellable, hload, hlimit⟩ :=
    (isOk_analyze_iff h hmeasured fun r hr => (hrecords r hr).2.1).mp
      (isOk_iff.mpr ⟨issues, hanalyze⟩)
  have hwatched : s.settings.loadAware.truthy = true := by rw [h.configured, haware]
  refine ⟨hmeasured, hexecutions, htellable, fun _ => hload hwatched, hlimit, ?_⟩
  intro others now hothers _
  obtain rfl := Except.ok.inj (hanalyze.symm.trans hothers)
  exact writable_reportInput (fun r hr => (hrecords r hr).2.2) hissues hscripts now

include hcounted

/-- A session whose parts are as they always are gives all results exactly if its records
and scripts keep to the limits. -/
theorem isOk_reports (hissues : thresholds.maxIssues.whole?.isSome)
    (hslowest : thresholds.topSlowest.whole?.isSome) :
    (s.analyze.result.isOk = true ∧
      (∀ now detailed, (s.report now detailed).result.isOk = true) ∧
      ∀ now, (s.reportData now).result.isOk = true) ↔ s.Reportable := by
  obtain rfl := h.configured
  obtain rfl := h.limits
  -- What the text report says of its input is exact once times and executions are known.
  have hrenders : ∀ issues now, (∀ r ∈ s.aggregator.snapshot.values, r.Measured) →
      WithinDigits s.aggregator.snapshot.executions →
      ((∀ detailed, (Report.render s.thresholds s.settings.defaultLoad
        (s.reportInput issues now) detailed).isOk = true) ↔
        (s.aggregator.snapshot.isEmpty = false → s.currentLoad.IsLoad ∧
          Report.Writable s.thresholds (s.reportInput issues now))) :=
    fun issues now hrecords hexecutions => Report.isOk_render_iff hrecords
      (fun r hr => withinDigits_count hcounted hexecutions hr) hslowest hissues h.load rfl
      hexecutions
  constructor
  · rintro ⟨hanalyze, hreport, hjson⟩
    obtain ⟨issues, hanalyzed⟩ := isOk_iff.mp hanalyze
    have hrecords := (isOk_reportData_iff h hanalyzed (.zero false)).mp (hjson (.zero false))
    have hrendered : ∀ now detailed, (Report.render s.thresholds s.settings.defaultLoad
        (s.reportInput issues now) detailed).isOk = true :=
      fun now detailed => (isOk_report_of_analyze hanalyzed now detailed).mp (hreport now detailed)
    have hexecutions : WithinDigits s.aggregator.snapshot.executions :=
      Report.withinDigits_of_render (hrendered (.zero false) false)
    have hwritten := fun now => (hrenders issues now hrecords hexecutions).mp (hrendered now)
    obtain ⟨hscripts, hload, hlimit⟩ := (isOk_analyze_iff h hrecords
      fun r hr => withinDigits_count hcounted hexecutions hr).mp hanalyze
    refine ⟨hrecords, hexecutions, hscripts, ?_, hlimit, ?_⟩
    · rintro (haware | hmetrics)
      · exact hload haware
      · exact (hwritten (.zero false) hmetrics).1
    · intro others now hothers hmetrics
      obtain rfl := Except.ok.inj (hanalyzed.symm.trans hothers)
      exact (hwritten now hmetrics).2
  · intro hall
    have hanalyze := (isOk_analyze_iff h hall.records fun r hr =>
      withinDigits_count hcounted hall.executions hr).mpr
        ⟨hall.scripts, fun haware => hall.load (Or.inl haware), hall.limit⟩
    obtain ⟨issues, hanalyzed⟩ := isOk_iff.mp hanalyze
    refine ⟨hanalyze, fun now detailed => ?_, fun now => ?_⟩
    · rw [isOk_report_of_analyze hanalyzed]
      exact (hrenders issues now hall.records hall.executions).mpr (fun hmetrics =>
        ⟨hall.load (Or.inr hmetrics), hall.printable issues now hanalyzed hmetrics⟩) detailed
    · exact (isOk_reportData_iff h hanalyzed now).mpr hall.records

end Supplied

end Results

/-- After every run of a new session its analysis and both its reports give a result,
whatever the executions and the waits, exactly if the session is reportable: the times of each
record can be divided, the executions of all records can be written, and so can the numbers that
the scripts' issues tell, the loads where they are told, and the lines and counts of what the
text report lists. The limits of the lists must be whole. -/
theorem reporting {settings : Settings} {sampler : Option (List Sample)} {s : Session}
    (hcreate : Session.create settings sampler = .ok s)
    (hissues : s.thresholds.maxIssues.whole?.isSome)
    (hslowest : s.thresholds.topSlowest.whole?.isSome) (steps : List Step) :
    ((s.run steps).analyze.result.isOk = true ∧
      (∀ now detailed, ((s.run steps).report now detailed).result.isOk = true) ∧
      ∀ now, ((s.run steps).reportData now).result.isOk = true) ↔ (s.run steps).Reportable := by
  have hcounted := ((Follows.create hcreate).run steps).counted
  exact isOk_reports ((Supplied.create hcreate).run steps) hcounted hissues hslowest

/-- A script with a long wait is loaded, and two executions are told. -/
def longDay (line duration : Nat) : List Step :=
  let script : Value := .tuple [.text "shop.sk", .list [.text "on join:", .text "  wait 5 minutes"]]
  let join : MetricKey := ⟨"shop.sk", line, "event"⟩
  [.start ⟨[script], none, [], 0⟩ (.zero false), .record (.span join (.int duration) "on join"),
    .record (.occurrence join "on join")]

/-- A day of ordinary executions can be reported on. One with an execution of more than ten to
the four hundredth nanoseconds cannot, nor one with an execution on a line whose number has more
digits than the limit, although the latter can be analyzed. -/
theorem reporting_longDay :
    create shortSession.settings shortSession.monitor.sampler = .ok shortSession ∧
    (shortSession.run (longDay 1 300000000)).Reportable ∧
    ¬ (shortSession.run (longDay 1 (10 ^ 400))).Reportable ∧
    (shortSession.run (longDay 1 (10 ^ 400))).analyze.result.isOk = false ∧
    ¬ (shortSession.run (longDay (10 ^ 4300) 300000000)).Reportable ∧
    (shortSession.run (longDay (10 ^ 4300) 300000000)).analyze.result.isOk = true := by
  have hcreate : create shortSession.settings shortSession.monitor.sampler = .ok shortSession :=
    rfl
  have hexact := reporting hcreate rfl rfl
  have hfails : (shortSession.run (longDay 1 (10 ^ 400))).analyze.result.isOk = false := by
    decide +kernel
  have hanalyzed : (shortSession.run (longDay (10 ^ 4300) 300000000)).analyze.result.isOk = true :=
    by decide +kernel
  have hunwritten : ((shortSession.run (longDay (10 ^ 4300) 300000000)).report (.zero false)
      false).result.isOk = false := by
    decide +kernel
  refine ⟨hcreate, ?_, fun hlong => ?_, hfails, fun hfar => ?_, hanalyzed⟩
  · obtain ⟨issues, hissues, hlines⟩ := exists_analyze
      (shortSession.run (longDay 1 300000000)) (P := fun i => WithinDigits i.line)
      (by decide +kernel)
    exact ((Supplied.create hcreate).run _).reportable rfl (by decide +kernel)
      (by decide +kernel) (by decide +kernel) hissues hlines
  · obtain ⟨hanalyze, -⟩ := (hexact _).mpr hlong
    exact Bool.false_ne_true (hfails.symm.trans hanalyze)
  · obtain ⟨-, hreport, -⟩ := (hexact _).mpr hfar
    exact Bool.false_ne_true (hunwritten.symm.trans (hreport (.zero false) false))

end Session
end ScriptProfiling
