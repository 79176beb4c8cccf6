import ScriptProfiling.Proofs.Detection.Ordering
import ScriptProfiling.Proofs.Number.Order

/-!
# Soundness and completeness of detection

The issues of a result are those that the rules name, one for each place at which a rule
names one. A load that is below the limit strains the host; the program asks instead
whether the load is at least the limit, and this differs for a limit that is not a number.
-/
namespace ScriptProfiling
namespace Detection

/-- One issue for each origin that a rule judges, and no other. -/
def Accounts (rule : Origin → Option Site) (issues : List Issue) : Prop :=
  ∃ places : List Origin, places.Nodup ∧ (∀ o, o ∈ places ↔ (rule o).isSome) ∧
    (issues.map fun i => some i.site).Perm (places.map rule)

theorem InOrder.accounts {rule : Origin → Option Site} {evaluation issues : List Issue}
    (h : InOrder rule evaluation) (hperm : issues.Perm evaluation) : Accounts rule issues := by
  obtain ⟨places, hbefore, hmem, hsites⟩ := h
  refine ⟨places, hbefore.imp ?_, hmem, ?_⟩
  · intro o p hop heq
    exact (ne_of_lt hop) (congrArg Origin.position heq)
  · rw [← hsites]
    exact hperm.map _

theorem Accounts.exists_issue {rule : Origin → Option Site} {issues : List Issue}
    (h : Accounts rule issues) {o : Origin} {site : Site} (ho : rule o = some site) :
    ∃ i ∈ issues, i.site = site := by
  obtain ⟨places, -, hmem, hsites⟩ := h
  have hplace : o ∈ places := (hmem o).mpr (by rw [ho]; rfl)
  have hsome : some site ∈ issues.map fun i => some i.site :=
    hsites.mem_iff.mpr (List.mem_map.mpr ⟨o, hplace, ho⟩)
  obtain ⟨i, hi, heq⟩ := List.mem_map.mp hsome
  exact ⟨i, hi, Option.some.inj heq⟩

theorem Accounts.exists_origin {rule : Origin → Option Site} {issues : List Issue}
    (h : Accounts rule issues) {i : Issue} (hi : i ∈ issues) : ∃ o, rule o = some i.site := by
  obtain ⟨places, -, -, hsites⟩ := h
  obtain ⟨o, -, ho⟩ := List.mem_map.mp (hsites.mem_iff.mp (List.mem_map_of_mem hi))
  exact ⟨o, ho⟩

section Load

variable {metrics : Metrics} {scripts : Scripts} {t : Thresholds} {load : Value}
  {strained : Number → Number → Bool} {issues : List Issue}

theorem usableLoad?_ne_nan {x : Number} (h : usableLoad? load = .ok (some x)) :
    x ≠ .float .nan := by
  unfold usableLoad? at h
  split at h
  · cases Except.ok.inj h
  · obtain ⟨y, -, h⟩ := bind_eq_ok.mp h
    obtain ⟨z, hz, h⟩ := bind_eq_ok.mp h
    have hchosen := pure_eq_ok.mp h
    split_ifs at hchosen with hfinite
    obtain rfl := Option.some.inj hchosen
    rintro rfl
    obtain rfl := Except.ok.inj hz
    simp [Binary64.isFinite] at hfinite

theorem usable?_ne_nan {x : Number} (h : usable? load = some x) : x ≠ .float .nan := by
  unfold usable? at h
  exact usableLoad?_ne_nan (toOption_eq_some.mp (Option.join_eq_some_iff.mp h))

/-- A rule names issues of its kind, at the place of a record or in a script that it looks at. -/
theorem verdict_cases {o : Origin} {site : Site}
    (h : verdict metrics scripts t load strained o = some site) :
    (∃ r ∈ metrics.values, ∃ severity, site = siteOf r o.kind severity) ∨
    ∃ s ∈ scripts.values, ∃ severity line trigger,
      site = ⟨o.kind, severity, s.path, line, trigger⟩ := by
  cases o with
  | slow i =>
    obtain ⟨r, hr, h⟩ := Option.bind_eq_some_iff.mp h
    unfold slowSite at h
    split_ifs at h <;> exact Or.inl ⟨r, List.mem_of_getElem? hr, _, (Option.some.inj h).symm⟩
  | frequent i =>
    obtain ⟨r, hr, h⟩ := Option.bind_eq_some_iff.mp h
    unfold frequentSite at h
    split_ifs at h <;> exact Or.inl ⟨r, List.mem_of_getElem? hr, _, (Option.some.inj h).symm⟩
  | loop i line =>
    obtain ⟨s, hs, h⟩ := Option.bind_eq_some_iff.mp h
    unfold loopSite at h
    split_ifs at h
    obtain ⟨r, -, h⟩ := Option.bind_eq_some_iff.mp h
    split_ifs at h
    exact Or.inr ⟨s, List.mem_of_getElem? hs, _, _, _, (Option.some.inj h).symm⟩
  | wait i line =>
    obtain ⟨s, hs, h⟩ := Option.bind_eq_some_iff.mp h
    obtain ⟨w, -, h⟩ := Option.bind_eq_some_iff.mp h
    obtain ⟨ticks, -, h⟩ := Option.bind_eq_some_iff.mp h
    split_ifs at h
    exact Or.inr ⟨s, List.mem_of_getElem? hs, _, _, _, (Option.some.inj h).symm⟩
  | accesses i =>
    obtain ⟨s, hs, h⟩ := Option.bind_eq_some_iff.mp h
    unfold accessSite at h
    split_ifs at h
    exact Or.inr ⟨s, List.mem_of_getElem? hs, _, _, _, (Option.some.inj h).symm⟩
  | load =>
    obtain ⟨x, -, h⟩ := Option.bind_eq_some_iff.mp h
    split_ifs at h
    obtain ⟨r, hr, rfl⟩ := Option.map_eq_some_iff.mp h
    exact Or.inl ⟨r, List.mem_of_find?_eq_some hr, _, rfl⟩

theorem kind_of_verdict {o : Origin} {site : Site}
    (h : verdict metrics scripts t load strained o = some site) : site.kind = o.kind := by
  rcases verdict_cases h with ⟨r, -, severity, rfl⟩ | ⟨s, -, severity, line, trigger, rfl⟩
  · rfl
  · rfl

theorem file_of_verdict {o : Origin} {site : Site}
    (h : verdict metrics scripts t load strained o = some site) :
    (∃ r ∈ metrics.values, site.file = r.key.file) ∨ ∃ s ∈ scripts.values, site.file = s.path := by
  rcases verdict_cases h with ⟨r, hr, severity, rfl⟩ | ⟨s, hs, severity, line, trigger, rfl⟩
  · exact Or.inl ⟨r, hr, rfl⟩
  · exact Or.inr ⟨s, hs, rfl⟩

theorem firstLargest?_isSome (h : metrics.values ≠ []) : (firstLargest? metrics.values).isSome := by
  rw [← costliest?_eq]
  cases hv : metrics.values with
  | nil => exact absurd hv h
  | cons r rs => rfl

theorem loadSite_lt (h : t.lowLoad ≠ .float .nan ∨ usable? load = none ∨ metrics.values = []) :
    loadSite metrics t load Number.lt = loadSite metrics t load notAtLeast := by
  unfold loadSite
  cases hx : usable? load with
  | none => rfl
  | some x =>
    rw [Option.bind_some, Option.bind_some]
    rcases h with hlimit | hnone | hempty
    · rw [Number.lt_eq_not_ge (usable?_ne_nan hx) hlimit, notAtLeast]
    · exact absurd hnone (by simp [hx])
    · simp [hempty, firstLargest?]

theorem verdict_lt (h : t.lowLoad ≠ .float .nan ∨ usable? load = none ∨ metrics.values = []) :
    verdict metrics scripts t load Number.lt = verdict metrics scripts t load notAtLeast := by
  funext o
  cases o with
  | load => exact loadSite_lt h
  | _ => rfl

/-- No load is below a limit that is not a number, and none is at least that limit. -/
theorem loadSite_nan (metrics : Metrics) (load : Value) (hlimit : t.lowLoad = .float .nan) :
    loadSite metrics t load Number.lt = none ∧
      loadSite metrics t load notAtLeast =
        (usable? load).bind fun _ => (firstLargest? metrics.values).map fun r =>
          siteOf r .loadImpact .high := by
  unfold loadSite notAtLeast
  rw [hlimit]
  constructor
  · cases usable? load with
    | none => rfl
    | some x => simp [Number.lt_nan]
  · simp [Number.ge_nan]

/-- Against a limit that is not a number, a usable load is blamed on a record although it
is not below the limit. -/
theorem not_accounts_lt (h : Accounts (verdict metrics scripts t load notAtLeast) issues)
    (hlimit : t.lowLoad = .float .nan) (husable : (usable? load).isSome)
    (hvalues : metrics.values ≠ []) :
    ¬ Accounts (verdict metrics scripts t load Number.lt) issues := by
  intro hlt
  obtain ⟨hbelow, hreported⟩ := loadSite_nan metrics load hlimit
  obtain ⟨x, hx⟩ := Option.isSome_iff_exists.mp husable
  obtain ⟨r, hr⟩ := Option.isSome_iff_exists.mp (firstLargest?_isSome hvalues)
  have hload : verdict metrics scripts t load notAtLeast .load =
      some (siteOf r .loadImpact .high) := by
    rw [verdict, hreported, hx, hr]
    rfl
  obtain ⟨i, hi, hsite⟩ := h.exists_issue hload
  obtain ⟨o, ho⟩ := hlt.exists_origin hi
  have hkind : IssueKind.loadImpact = o.kind := by
    rw [← kind_of_verdict ho, hsite]
    rfl
  cases o with
  | load =>
    rw [verdict, hbelow] at ho
    cases ho
  | _ => cases hkind

end Load

end Detection

variable {metrics : Metrics} {scripts : Scripts} {t : Thresholds} {load : Value}
  {issues : List Issue}

/-- The issues are those that the rules name, when a load strains the host unless it is at least
the limit. -/
theorem accounts_of_detect (h : detect metrics scripts t load = .ok issues) :
    Detection.Accounts (Detection.verdict metrics scripts t load Detection.notAtLeast) issues := by
  obtain ⟨evaluation, hfound, rfl⟩ := detect_eq_ok h
  exact (Detection.found_inOrder hfound).accounts (Detection.bySeverity_perm evaluation)

theorem file_detect (h : detect metrics scripts t load = .ok issues) {i : Issue}
    (hi : i ∈ issues) :
    (∃ r ∈ metrics.values, i.file = r.key.file) ∨ ∃ s ∈ scripts.values, i.file = s.path := by
  obtain ⟨o, ho⟩ := (accounts_of_detect h).exists_origin hi
  exact Detection.file_of_verdict ho

/-- Detection is sound and complete, each issue counted once, when a load strains the host
unless it is at least the limit. It is so for a load below the limit except in one case:
the limit is not a number, the load is usable, and there is a record to blame. -/
theorem detect_accounts (h : detect metrics scripts t load = .ok issues) :
    Detection.Accounts
      (Detection.verdict metrics scripts t load Detection.notAtLeast) issues ∧
    (Detection.Accounts (Detection.verdict metrics scripts t load Number.lt) issues ↔
      ¬ (t.lowLoad = .float .nan ∧ (Detection.usable? load).isSome ∧ metrics.values ≠ [])) := by
  have haccounts := accounts_of_detect h
  refine ⟨haccounts, ?_⟩
  constructor
  · rintro hlt ⟨hlimit, husable, hvalues⟩
    exact Detection.not_accounts_lt haccounts hlimit husable hvalues hlt
  · intro hcase
    rw [Detection.verdict_lt]
    · exact haccounts
    · by_contra hother
      push Not at hother
      obtain ⟨hlimit, husable, hvalues⟩ := hother
      exact hcase ⟨hlimit, Option.isSome_iff_ne_none.mpr husable, hvalues⟩

/-- One record of a millisecond. -/
def shortDay : Metrics :=
  let join : MetricKey := ⟨"a.sk", 1, "event"⟩
  .ofList [(join, ⟨join, "event", 1, 1000000, 1000000, some 1000000⟩)]

/-- A load of ten is blamed on the record although it is not below the limit. -/
theorem detect_shortDay : ∃ issues,
    detect shortDay ∅ { Thresholds.default with lowLoad := .float .nan } (.int 10) = .ok issues ∧
      ¬ Detection.Accounts (Detection.verdict shortDay ∅
        { Thresholds.default with lowLoad := .float .nan } (.int 10) Number.lt) issues := by
  have hfound : (Detection.found shortDay ∅
      { Thresholds.default with lowLoad := .float .nan } (.int 10)).toOption.isSome := by
    decide +kernel
  obtain ⟨found, hoption⟩ := Option.isSome_iff_exists.mp hfound
  have hdetect := map_eq_ok.mpr
    ⟨found, toOption_eq_some.mp hoption, (rfl : Detection.bySeverity found = _)⟩
  refine ⟨_, hdetect, ?_⟩
  rw [(detect_accounts hdetect).2]
  decide +kernel

end ScriptProfiling
