import ScriptProfiling.Proofs.Aggregator.Growth
import ScriptProfiling.Proofs.Detection.Completeness
import ScriptProfiling.Proofs.Detection.Totality
import ScriptProfiling.Proofs.Number.Monotone

/-!
# Findings that last

Three findings depend only on what never falls: how often a record has counted, and its longest
execution. Records that grow keep them. A line is judged by its first record, and later keys do
not come before it; the longest execution in milliseconds is rounded, and rounding keeps the
order. An average can fall, so a slow event that is not critical is no such finding.
-/
namespace ScriptProfiling

namespace Site

/-- A finding that more executions do not take back. -/
def Lasting (s : Site) : Prop :=
  s.kind = .highFrequency ∨ s.kind = .inefficientLoop ∨ s.kind = .slowEvent ∧ s.severity = .critical

instance (s : Site) : Decidable s.Lasting := inferInstanceAs (Decidable (_ ∨ _ ∨ _))

/-- The same finding at the same place. An element that runs often may have become more costly
in the meantime, or less. -/
structure Repeats (s s' : Site) : Prop where
  kind : s'.kind = s.kind
  file : s'.file = s.file
  line : s'.line = s.line
  trigger : s'.trigger = s.trigger
  severity : s.kind = .slowEvent → s'.severity = s.severity

theorem Repeats.refl (s : Site) : Repeats s s := ⟨rfl, rfl, rfl, rfl, fun _ => rfl⟩

/-- Only the severity may differ, and that of a slow event does not. -/
theorem Repeats.eq_of_slowEvent {s s' : Site} (h : Repeats s s') (hkind : s.kind = .slowEvent) :
    s' = s := by
  obtain ⟨kind, severity, file, line, trigger⟩ := s'
  obtain ⟨rfl, rfl, rfl, rfl, hseverity⟩ := h
  obtain rfl := hseverity hkind
  rfl

end Site

namespace Detection

section Limits

theorem aboveLimit_mono {m n : Int} {limit : Number} (h : m ≤ n)
    (habove : aboveLimit m limit = true) : aboveLimit n limit = true :=
  Scaled.gt_of_ge_of_gt (Scaled.ge_ofInt.mpr h) habove

theorem verySlow_iff {t : Thresholds} {r : Record Int} :
    verySlow t r = true ↔
      ∃ longest, r.longestMs = .ok longest ∧ (Number.float longest).ge t.verySlowMs = true := by
  unfold verySlow
  cases r.longestMs <;> simp [Except.toOption]

theorem verySlow_mono {t : Thresholds} {r r' : Record Int} (h : r.AtMost r')
    (hread : r'.longestMs.isOk = true) (hslow : verySlow t r = true) : verySlow t r' = true := by
  obtain ⟨x, hx, hlimit⟩ := verySlow_iff.mp hslow
  obtain ⟨y, hy⟩ := isOk_iff.mp hread
  have hge : (Number.float y).ge (.float x) = true := ge_quotient h.longest (by decide) hx hy
  exact verySlow_iff.mpr ⟨y, hy, Scaled.ge_trans hge hlimit⟩

end Limits

section Records

variable {t : Thresholds} {r r' : Record Int} {site : Site}

theorem siteOf_of_atMost (h : r.AtMost r') (kind : IssueKind) (severity : Severity) :
    siteOf r' kind severity = siteOf r kind severity := by
  rw [siteOf, siteOf, h.key]

theorem slowSite_grows (h : r.AtMost r') (hread : r'.longestMs.isOk = true)
    (hsite : slowSite t r = some site) (hlasting : site.Lasting) : slowSite t r' = some site := by
  unfold slowSite at hsite
  split_ifs at hsite with hslow haverage
  · rw [slowSite, if_pos (verySlow_mono h hread hslow), siteOf_of_atMost h]
    exact hsite
  · -- Slow by the average alone is not lasting.
    obtain rfl := Option.some.inj hsite
    rcases hlasting with hkind | hkind | ⟨-, hseverity⟩
    · cases hkind
    · cases hkind
    · cases hseverity

theorem frequentSite_grows (h : r.AtMost r') (hsite : frequentSite t r = some site) :
    ∃ site', frequentSite t r' = some site' ∧ site.Repeats site' := by
  unfold frequentSite at hsite
  by_cases habove : aboveLimit r.count t.frequencyCount = true
  · rw [if_pos habove] at hsite
    obtain rfl := Option.some.inj hsite
    refine ⟨_, if_pos (aboveLimit_mono h.count habove), ?_⟩
    rw [siteOf_of_atMost h]
    exact ⟨rfl, rfl, rfl, rfl, nofun⟩
  · rw [if_neg habove] at hsite
    cases hsite

end Records

section Growth

variable {m m' : Metrics}

/-- The first record of a line stays the first: new keys are filed behind it. -/
theorem firstOnLine?_grows (h : m.Grows m') {file : String} {line : Int} {r : Record Int}
    (hr : firstOnLine? m file line = some r) :
    ∃ r', firstOnLine? m' file line = some r' ∧ r.AtMost r' := by
  obtain ⟨hplace, i, hi, rfl, hbefore⟩ := List.find?_eq_some_iff_getElem.mp hr
  obtain ⟨r', hr', hle⟩ := h i _ (List.getElem?_eq_getElem hi)
  obtain ⟨hi', rfl⟩ := List.getElem?_eq_some_iff.mp hr'
  refine ⟨_, List.find?_eq_some_iff_getElem.mpr ⟨?_, i, hi', rfl, fun j hj => ?_⟩, hle⟩
  · rwa [hle.key]
  · obtain ⟨q, hq, hqle⟩ := h j _ (List.getElem?_eq_getElem (hj.trans hi))
    obtain ⟨hj', rfl⟩ := List.getElem?_eq_some_iff.mp hq
    rw [hqle.key]
    exact hbefore j hj

theorem loopSite_grows (h : m.Grows m') {t : Thresholds} {s : ScriptInfo} {line : Int} {site : Site}
    (hsite : loopSite m t s line = some site) : loopSite m' t s line = some site := by
  unfold loopSite at hsite ⊢
  split_ifs at hsite ⊢
  obtain ⟨r, hr, hsite⟩ := Option.bind_eq_some_iff.mp hsite
  obtain ⟨r', hr', hle⟩ := firstOnLine?_grows h hr
  split_ifs at hsite with habove
  rw [hr', Option.bind_some, if_pos (aboveLimit_mono hle.count habove), hle.key]
  exact hsite

variable {scripts : Scripts} {t : Thresholds} {load : Value}

/-- Where a lasting finding was, records that have grown have it again, under any load. -/
theorem verdict_grows {strained : Number → Number → Bool} (h : m.Grows m')
    (hread : ∀ r ∈ m'.values, r.longestMs.isOk = true) {o : Origin} {site : Site}
    (ho : verdict m scripts t load strained o = some site) (hlasting : site.Lasting)
    (load' : Value) :
    ∃ site', verdict m' scripts t load' strained o = some site' ∧ site.Repeats site' := by
  have hkind : site.kind = o.kind := kind_of_verdict ho
  cases o with
  | slow i =>
    obtain ⟨r, hr, hsite⟩ := Option.bind_eq_some_iff.mp ho
    obtain ⟨r', hr', hle⟩ := h i r hr
    have hread' : r'.longestMs.isOk = true := hread r' (List.mem_of_getElem? hr')
    refine ⟨site, ?_, .refl site⟩
    rw [verdict, hr', Option.bind_some]
    exact slowSite_grows hle hread' hsite hlasting
  | frequent i =>
    obtain ⟨r, hr, hsite⟩ := Option.bind_eq_some_iff.mp ho
    obtain ⟨r', hr', hle⟩ := h i r hr
    obtain ⟨site', hsite', hrepeats⟩ := frequentSite_grows hle hsite
    refine ⟨site', ?_, hrepeats⟩
    rw [verdict, hr', Option.bind_some]
    exact hsite'
  | loop i line =>
    obtain ⟨s, hs, hsite⟩ := Option.bind_eq_some_iff.mp ho
    refine ⟨site, ?_, .refl site⟩
    rw [verdict, hs, Option.bind_some]
    exact loopSite_grows h hsite
  | wait i line => simp [Site.Lasting, hkind, Origin.kind] at hlasting
  | accesses i => simp [Site.Lasting, hkind, Origin.kind] at hlasting
  | load => simp [Site.Lasting, hkind, Origin.kind] at hlasting

end Growth

end Detection

variable {m m' : Metrics} {scripts : Scripts} {t : Thresholds} {load load' : Value}
  {issues later : List Issue}

theorem isOk_longestMs_of_detect (h : detect m scripts t load = .ok issues) {r : Record Int}
    (hr : r ∈ m.values) : r.longestMs.isOk = true := by
  obtain ⟨evaluation, hfound, -⟩ := detect_eq_ok h
  obtain ⟨hrecords, -, -⟩ := (Detection.isOk_found load).mp (isOk_iff.mpr ⟨evaluation, hfound⟩)
  obtain ⟨found, hcheck⟩ := isOk_iff.mp (hrecords r hr)
  obtain ⟨average, -, hcheck⟩ := bind_eq_ok.mp hcheck
  obtain ⟨longest, hlongest, -⟩ := bind_eq_ok.mp hcheck
  exact isOk_iff.mpr ⟨longest, hlongest⟩

/-- Detection on records that have grown finds again what lasts, under any load. -/
theorem detect_grows (hgrows : m.Grows m') (h : detect m scripts t load = .ok issues)
    (h' : detect m' scripts t load' = .ok later) {i : Issue} (hi : i ∈ issues)
    (hlasting : i.site.Lasting) : ∃ j ∈ later, i.site.Repeats j.site := by
  obtain ⟨o, ho⟩ := (accounts_of_detect h).exists_origin hi
  have hread : ∀ r ∈ m'.values, r.longestMs.isOk = true := fun r hr =>
    isOk_longestMs_of_detect h' hr
  obtain ⟨site, hsite, hrepeats⟩ := Detection.verdict_grows hgrows hread ho hlasting load'
  obtain ⟨j, hj, rfl⟩ := (accounts_of_detect h').exists_issue hsite
  exact ⟨j, hj, hrepeats⟩

end ScriptProfiling
