import ScriptProfiling.Proofs.Session.Persistence

/-!
# A bad load is blamed on a record

The load that detection regards is the last usable one that the host has pushed or the sampler has
given since the session was made, through all its starts, stops and resets, or the default load if
there was none. A session that heeds the load and has records reports a load below the limit once,
at the record that took most time.
-/
namespace ScriptProfiling

/-- A load must be finite and not negative. -/
def Number.isUsable (x : Number) : Bool := x.toFloat.toOption.any Binary64.isFinite && x.ge (.int 0)

/-- The last usable load among some samples, or the default. -/
def lastLoad (default : Number) (samples : List Sample) : Number :=
  (((samples.filterMap Sample.load?).getLast?).map Number.float).getD default

theorem standing_toValue (default : Number) (samples : List Sample) :
    Monitor.standing default.toValue samples = (lastLoad default samples).toValue := by
  unfold Monitor.standing lastLoad
  cases (samples.filterMap Sample.load?).getLast? <;> rfl

namespace Detection

theorem usable?_toValue (x : Number) :
    usable? x.toValue = if x.isUsable then some x else none := by
  have husable : usableLoad? x.toValue =
      x.toFloat.map fun y => if y.isFinite && x.ge (.int 0) then some x else none := by
    have hreal : realNumber x.toValue = .ok x := by rw [realNumber, Number.number?_toValue]
    have hvalue : usableLoad? x.toValue = realNumber x.toValue >>= fun x => x.toFloat >>= fun y =>
        pure (if y.isFinite && x.ge (.int 0) then some x else none) := by
      cases x <;> rfl
    rw [hvalue, hreal, ok_bind]
    cases x.toFloat <;> rfl
  rw [usable?, husable, Number.isUsable]
  cases x.toFloat with
  | error f => rfl
  | ok y => rfl

/-- A load that strains the host is reported once, at the record with the largest total, the first
one of several; without a usable load or a record there is no such report. -/
structure Blames (aware : Bool) (limit : Number) (records : List (Record Int)) (load : Number)
    (strained : Number → Number → Bool) (issues : List Issue) : Prop where
  reported : (∃ i ∈ issues, i.kind = .loadImpact) ↔
    aware = true ∧ records ≠ [] ∧ load.isUsable = true ∧ strained load limit = true
  once : ∀ i ∈ issues, i.kind = .loadImpact → issues.filter (·.kind = .loadImpact) = [i]
  place : ∀ i ∈ issues, i.kind = .loadImpact → ∃ before r after, records = before ++ r :: after ∧
    i.site = siteOf r .loadImpact .high ∧ (∀ q ∈ before, q.total < r.total) ∧
    ∀ q ∈ after, q.total ≤ r.total

section Sites

variable {metrics : Metrics} {scripts : Scripts} {t : Thresholds} {watched : Value}
  {strained : Number → Number → Bool} {issues : List Issue}

/-- Among the sites of a detection pass only that of the load is of its kind. -/
theorem Accounts.filter_loadImpact
    (h : Accounts (verdict metrics scripts t watched strained) issues) :
    (issues.map Issue.site).filter (·.kind = .loadImpact) =
      (loadSite metrics t watched strained).toList := by
  obtain ⟨places, hnodup, hmem, hsites⟩ := h
  have hkind : ∀ o ∈ places, ((verdict metrics scripts t watched strained o).any
      (·.kind = .loadImpact)) = (o == .load) := by
    intro o ho
    obtain ⟨site, hsite⟩ := Option.isSome_iff_exists.mp ((hmem o).mp ho)
    rw [hsite, Option.any_some, kind_of_verdict hsite]
    cases o <;> rfl
  have hload : places.filter (· == .load) =
      if (loadSite metrics t watched strained).isSome then [.load] else [] := by
    have hplace : .load ∈ places ↔ (loadSite metrics t watched strained).isSome := hmem .load
    rw [List.filter_beq, hnodup.count]
    simp only [hplace]
    split <;> rfl
  have hperm := hsites.filter fun site => site.any (·.kind = .loadImpact)
  simp only [List.filter_map, Function.comp_def, Option.any_some] at hperm
  rw [List.filter_congr hkind, hload] at hperm
  rw [List.filter_map]
  cases hsite : loadSite metrics t watched strained with
  | none =>
    simpa [hsite, Function.comp_def] using hperm
  | some site =>
    have hverdict : verdict metrics scripts t watched strained .load = some site := hsite
    rw [hsite, Option.isSome_some, if_pos rfl, List.map_singleton, hverdict] at hperm
    obtain ⟨i, hi, hisite⟩ := List.map_eq_singleton_iff.mp (List.perm_singleton.mp hperm)
    simpa [Function.comp_def, hi] using Option.some.inj hisite

theorem firstLargest?_eq_some {rs : List (Record Int)} {r : Record Int}
    (h : firstLargest? rs = some r) : ∃ before after, rs = before ++ r :: after ∧
      (∀ q ∈ before, q.total < r.total) ∧ ∀ q ∈ after, q.total ≤ r.total := by
  obtain ⟨hmost, before, after, hsplit, hbefore⟩ := List.find?_eq_some_iff_append.mp h
  have hle : ∀ q ∈ rs, q.total ≤ r.total := by simpa using hmost
  refine ⟨before, after, hsplit, ?_, ?_⟩
  · intro q hq
    have hnot : ¬ ∀ w ∈ rs, w.total ≤ q.total := by simpa using hbefore q hq
    push Not at hnot
    obtain ⟨w, hw, hlt⟩ := hnot
    exact hlt.trans_le (hle w hw)
  · intro q hq
    exact hle q (by rw [hsplit]; simp [hq])

variable {aware : Bool} {limit : Number} {records : List (Record Int)} {load : Number}

theorem blames_none (hnone : ∀ i ∈ issues, i.kind ≠ .loadImpact)
    (h : ¬ (aware = true ∧ records ≠ [] ∧ load.isUsable = true ∧ strained load limit = true)) :
    Blames aware limit records load strained issues := by
  refine ⟨iff_of_false ?_ h, fun i hi hkind => absurd hkind (hnone i hi),
    fun i hi hkind => absurd hkind (hnone i hi)⟩
  rintro ⟨i, hi, hkind⟩
  exact hnone i hi hkind

theorem blames_some {r : Record Int} {blamed : Issue}
    (hfilter : issues.filter (·.kind = .loadImpact) = [blamed])
    (hsite : blamed.site = siteOf r .loadImpact .high) (hr : firstLargest? records = some r)
    (h : aware = true ∧ load.isUsable = true ∧ strained load limit = true) :
    Blames aware limit records load strained issues := by
  have hmem : ∀ i, i ∈ issues ∧ i.kind = .loadImpact ↔ i = blamed := by
    intro i
    have hfiltered : i ∈ issues.filter (·.kind = .loadImpact) ↔ i ∈ [blamed] := by rw [hfilter]
    simpa using hfiltered
  obtain ⟨before, after, hsplit, hbefore, hafter⟩ := firstLargest?_eq_some hr
  refine ⟨iff_of_true ⟨blamed, (hmem blamed).mpr rfl⟩ ⟨h.1, by simp [hsplit], h.2⟩, ?_, ?_⟩
  · rintro i hi hkind
    rw [(hmem i).mp ⟨hi, hkind⟩]
    exact hfilter
  · rintro i hi hkind
    rw [(hmem i).mp ⟨hi, hkind⟩]
    exact ⟨before, r, after, hsplit, hsite, hbefore, hafter⟩

theorem blames_of_loadSite
    (h : (issues.map Issue.site).filter (·.kind = .loadImpact) =
      (loadSite metrics t (if aware then load.toValue else .null) strained).toList) :
    Blames aware t.lowLoad metrics.values load strained issues := by
  have hsite : loadSite metrics t (if aware then load.toValue else .null) strained =
      if aware = true ∧ load.isUsable = true ∧ strained load t.lowLoad = true then
        (firstLargest? metrics.values).map fun r => siteOf r .loadImpact .high
      else none := by
    unfold loadSite
    cases aware with
    | false => rfl
    | true =>
      rw [if_pos rfl, usable?_toValue]
      cases load.isUsable with
      | false => rfl
      | true => simp
  rw [hsite, List.filter_map] at h
  by_cases hcond : aware = true ∧ load.isUsable = true ∧ strained load t.lowLoad = true
  · rw [if_pos hcond] at h
    cases hr : firstLargest? metrics.values with
    | none =>
      have hempty : metrics.values = [] := by
        by_contra hne
        simpa [hr] using firstLargest?_isSome hne
      rw [hr, Option.map_none, Option.toList_none, List.map_eq_nil_iff] at h
      refine blames_none
        (fun i hi hkind => List.filter_eq_nil_iff.mp h i hi (decide_eq_true hkind)) ?_
      rintro ⟨-, hne, -⟩
      exact hne hempty
    | some r =>
      rw [hr, Option.map_some, Option.toList_some] at h
      obtain ⟨blamed, hblamed, hblamedSite⟩ := List.map_eq_singleton_iff.mp h
      exact blames_some hblamed hblamedSite hr hcond
  · rw [if_neg hcond, Option.toList_none, List.map_eq_nil_iff] at h
    refine blames_none
        (fun i hi hkind => List.filter_eq_nil_iff.mp h i hi (decide_eq_true hkind)) ?_
    rintro ⟨haware, -, husable⟩
    exact hcond ⟨haware, husable⟩

theorem isUsable_ne_nan (h : load.isUsable = true) : load ≠ .float .nan := by
  rintro rfl
  cases h

/-- That a load is below a limit and that it is not at least that limit differ only if the limit
is no number. -/
theorem Blames.lt_iff (h : Blames aware limit records load notAtLeast issues) :
    Blames aware limit records load Number.lt issues ↔
      ¬ (limit = .float .nan ∧ aware = true ∧ records ≠ [] ∧ load.isUsable = true) := by
  constructor
  · rintro hlt ⟨rfl, haware, hrecords, husable⟩
    have hreported := h.reported.mpr ⟨haware, hrecords, husable, by
      rw [notAtLeast, Number.ge_nan, Bool.not_false]⟩
    obtain ⟨-, -, -, hbelow⟩ := hlt.reported.mp hreported
    rw [Number.lt_nan] at hbelow
    cases hbelow
  · intro hnot
    refine ⟨h.reported.trans ?_, h.once, h.place⟩
    refine and_congr_right fun haware => and_congr_right fun hrecords =>
      and_congr_right fun husable => ?_
    have hlimit : limit ≠ .float .nan := fun hnan => hnot ⟨hnan, haware, hrecords, husable⟩
    rw [Number.lt_eq_not_ge (isUsable_ne_nan husable) hlimit, notAtLeast]

end Sites

end Detection

namespace Session

section Heard

variable (s : Session)

/-- The loads that a step of the session itself lets the monitor hear. -/
def directHeard : Step → List Sample
  | .load v => [.value v]
  | .sample => s.monitor.answer
  | .poll => if s.monitor.running then s.monitor.answer else []
  | .start feed now =>
    if (s.start feed now).granted && s.settings.loadAware.truthy && !s.monitor.running then
      s.monitor.answer
    else []
  | _ => []

/-- The loads that the monitor hears of in whatever happens, pushed or sampled. -/
def heard : Act → List Sample
  | .step step => (step.direct?.map s.directHeard).getD []
  | .watch => if s.monitor.running then [] else s.monitor.answer
  | .operate _ | .unwatch => []

def heardAll (s : Session) : List Act → List Sample
  | [] => []
  | a :: acts => s.heard a ++ (s.act a).heardAll acts

theorem current_begin (now : Binary64) :
    (s.begin now).value.monitor.current = Monitor.standing s.monitor.current
      (if s.settings.loadAware.truthy && !s.monitor.running then s.monitor.answer else []) := by
  have hmonitor : (s.begin now).value.monitor =
      if s.settings.loadAware.truthy then s.monitor.start.value.2 else s.monitor := by
    unfold begin
    split <;> rfl
  rw [hmonitor]
  cases s.settings.loadAware.truthy with
  | false => rfl
  | true =>
    rw [if_pos rfl, Monitor.current_start]
    cases s.monitor.running <;> rfl

theorem current_performDirect {step : Step} (hdirect : step.isDirect = true) :
    (s.perform step).monitor.current =
      Monitor.standing s.monitor.current (s.directHeard step) := by
  have heffect := s.effect_perform hdirect
  generalize s.perform step = s' at heffect ⊢
  cases heffect with
  | startRefused refused =>
    rw [directHeard, refused]
    rfl
  | @started feed now batch idle granted loaded =>
    rw [directHeard, granted, Bool.true_and]
    exact current_begin { s with scripts := batch.scripts } now
  | loaded v => exact Monitor.current_update s.monitor v
  | sampled => exact Monitor.current_sample s.monitor
  | looked => exact s.monitor.current_noticed
  | polled => exact Monitor.current_poll s.monitor
  | _ => rfl

theorem current_act (a : Act) :
    (s.act a).monitor.current = Monitor.standing s.monitor.current (s.heard a) := by
  cases a with
  | step step =>
    rcases s.direct_cases step with ⟨hnone, hstate⟩ | ⟨direct, hsome, hdirect, hstate⟩
    · rw [act, hstate, heard, hnone]
      rfl
    · rw [act, hstate, heard, hsome]
      exact s.current_performDirect hdirect
  | operate op => rfl
  | watch => exact Monitor.current_start s.monitor
  | unwatch => rfl

theorem current_after (acts : List Act) :
    (s.after acts).monitor.current = Monitor.standing s.monitor.current (s.heardAll acts) := by
  induction acts generalizing s with
  | nil => rfl
  | cons a acts ih =>
    rw [heardAll, Monitor.standing_append, ← current_act]
    exact ih (s.act a)

theorem configuration_after (acts : List Act) :
    (s.after acts).settings = s.settings ∧ (s.after acts).thresholds = s.thresholds := by
  induction acts generalizing s with
  | nil => exact ⟨rfl, rfl⟩
  | cons a acts ih =>
    have hact : (s.act a).settings = s.settings ∧ (s.act a).thresholds = s.thresholds := by
      cases a with
      | step step =>
        have hchange := s.change_perform step
        rw [act]
        generalize s.starts step = started at hchange
        generalize s.perform step = s' at hchange ⊢
        cases hchange <;> exact ⟨rfl, rfl⟩
      | _ => exact ⟨rfl, rfl⟩
    obtain ⟨hsettings, hthresholds⟩ := ih (s.act a)
    exact ⟨hsettings.trans hact.1, hthresholds.trans hact.2⟩

/-- The operations on the aggregator in whatever happens. -/
def uses : Act → List Operation
  | .step step => s.operations step
  | .operate op => [op]
  | .watch | .unwatch => []

/-- The keys that the aggregator has been told of since the last reset that it heeded. -/
def sighted (s : Session) (keys : List MetricKey) : List Act → List MetricKey
  | [] => keys
  | a :: acts => (s.act a).sighted (s.aggregator.sightAll keys (s.uses a)) acts

theorem aggregator_act (a : Act) : (s.act a).aggregator = s.aggregator.operate (s.uses a) := by
  cases a with
  | step step => exact s.aggregator_perform step
  | _ => rfl

theorem keys_after (hkeys : Metrics.OwnKeys s.aggregator.records) {keys : List MetricKey}
    (h : s.aggregator.records.keys = keys.eraseDups) (acts : List Act) :
    (s.after acts).aggregator.records.keys = (s.sighted keys acts).eraseDups := by
  induction acts generalizing s keys with
  | nil => exact h
  | cons a acts ih =>
    refine ih (s.act a) (ownKeys_act hkeys a) ?_
    rw [aggregator_act]
    exact Aggregator.keys_operate hkeys h (s.uses a)

end Heard

/-- Whatever happens to a session, a detection pass that gives a result blames the load that
stands: the last usable one that the monitor has heard of, or the default. A load strains the host
if it is not at least the limit; that it is below the limit is the same, unless the limit is no
number. The record that is blamed is the first one of several because the records stand in the
order in which they were first told of. Of all loads only the usable ones matter for the result. -/
theorem analyze_blames {settings : Settings} {sampler : Option (List Sample)} {s : Session}
    (hcreate : create settings sampler = .ok s) (acts : List Act) :
    let load := lastLoad settings.defaultLoad (s.heardAll acts)
    let records := (s.after acts).aggregator.snapshot
    let aware := settings.loadAware.truthy
    let limit := s.thresholds.lowLoad
    records.values.map Record.key = (s.sighted [] acts).eraseDups ∧
    (∀ issues, (s.after acts).analyze.result = .ok issues →
      Detection.Blames aware limit records.values load Detection.notAtLeast issues ∧
      (Detection.Blames aware limit records.values load Number.lt issues ↔
        ¬ (limit = .float .nan ∧ aware = true ∧ records.values ≠ [] ∧ load.isUsable = true))) ∧
    ∀ others, (s.after others).aggregator.snapshot = records →
      (s.after others).scripts = (s.after acts).scripts →
      (s.heardAll others).filterMap Sample.load? = (s.heardAll acts).filterMap Sample.load? →
      (s.after others).analyze.result = (s.after acts).analyze.result := by
  obtain ⟨hsettings, hcurrent, hempty⟩ : s.settings = settings ∧
      s.monitor.current = settings.defaultLoad.toValue ∧ s.aggregator.records = .empty := by
    obtain ⟨thresholds, -, h⟩ := bind_eq_ok.mp hcreate
    obtain rfl := pure_eq_ok.mp h
    exact ⟨rfl, rfl, rfl⟩
  have hwatched : ∀ acts, (s.after acts).watchedLoad = if settings.loadAware.truthy then
      (lastLoad settings.defaultLoad (s.heardAll acts)).toValue else .null := by
    intro acts
    rw [watchedLoad, currentLoad, (s.configuration_after acts).1, current_after, hsettings,
      hcurrent, standing_toValue]
  refine ⟨?_, ?_, ?_⟩
  · have hkeys := ownKeys_create hcreate
    have hown := ownKeys_after hkeys acts
    rw [Aggregator.snapshot, hown.map_key_values]
    exact s.keys_after hkeys (by rw [hempty]; rfl) acts
  · intro issues hissues
    rw [result_analyze, (s.configuration_after acts).2, hwatched] at hissues
    obtain ⟨evaluation, hfound, rfl⟩ := detect_eq_ok hissues
    have haccounts := (Detection.found_inOrder hfound).accounts
      (Detection.bySeverity_perm evaluation)
    have hblames := Detection.blames_of_loadSite haccounts.filter_loadImpact
    exact ⟨hblames, hblames.lt_iff⟩
  · intro others hrecords hscripts hloads
    have hload : lastLoad settings.defaultLoad (s.heardAll others) =
        lastLoad settings.defaultLoad (s.heardAll acts) := by rw [lastLoad, hloads, lastLoad]
    rw [result_analyze, result_analyze, hrecords, hscripts, (s.configuration_after others).2,
      (s.configuration_after acts).2, hwatched, hwatched, hload]

/-- The sampler gives 15 and then raises. In between the host pushes what is no load, and two
elements take the same time, the first of them in two executions. -/
def strainedDay : List Act :=
  let join : MetricKey := ⟨"shop.sk", 1, "event"⟩
  let chat : MetricKey := ⟨"shop.sk", 4, "event"⟩
  [.step (.load (.int 30)), .step (.start ⟨[], none, [], 0⟩ (.zero false)),
    .step (.record (.span join (.int 3000000) "on join")),
    .step (.record (.span chat (.int 5000000) "on chat")), .step (.load (.float .nan)), .step .poll,
    .step (.record (.span join (.int 2000000) "on join")), .step (.load (.text "low")),
    .step (.stop (.zero false)), .step (.load (.int (-1)))]

theorem analyze_blames_strainedDay :
    create shortSession.settings shortSession.monitor.sampler = .ok shortSession ∧
    ∃ issues, (shortSession.after strainedDay).analyze.result = .ok issues ∧
      ∃ i ∈ issues, issues.filter (·.kind = .loadImpact) = [i] ∧
        i.site = ⟨.loadImpact, .high, "shop.sk", 1, some ⟨"shop.sk", 1, "event"⟩⟩ := by
  have hcreate : create shortSession.settings shortSession.monitor.sampler = .ok shortSession :=
    rfl
  have hok : (shortSession.after strainedDay).analyze.result.isOk = true := by decide +kernel
  obtain ⟨issues, hissues⟩ := isOk_iff.mp hok
  obtain ⟨-, hblames, -⟩ := analyze_blames hcreate strainedDay
  obtain ⟨hblames, -⟩ := hblames issues hissues
  obtain ⟨i, hi, hkind⟩ := hblames.reported.mpr (by decide +kernel)
  refine ⟨hcreate, issues, hissues, i, hi, hblames.once i hi hkind, ?_⟩
  obtain ⟨before, r, after, hsplit, hsite, hbefore, -⟩ := hblames.place i hi hkind
  have hmost : ∀ q ∈ (shortSession.after strainedDay).aggregator.snapshot.values,
      q.total ≤ 5000000 := by
    decide +kernel
  have hfirst : (shortSession.after strainedDay).aggregator.snapshot.values.head? =
      some ⟨⟨"shop.sk", 1, "event"⟩, "on join", 2, 5000000, 3000000, some 2000000⟩ := by
    decide +kernel
  rw [hsplit] at hmost hfirst
  cases before with
  | nil =>
    obtain rfl := Option.some.inj hfirst
    exact hsite
  | cons first before =>
    obtain rfl := Option.some.inj hfirst
    have hless : 5000000 < r.total := hbefore _ List.mem_cons_self
    exact absurd (hmost r (by simp)) (Int.not_le.mpr hless)

end Session
end ScriptProfiling
