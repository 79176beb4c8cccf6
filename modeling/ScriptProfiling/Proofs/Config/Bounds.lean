import ScriptProfiling.Proofs.Config.Precedence
import ScriptProfiling.Proofs.Number.Order

/-!
# The bounds of settings

Settings are checked by asking whether they break a bound. A value that is not a number breaks
none, so what settings have passed is less than what the bounds say: a bound holds of settings that
are loaded exactly if what it compares are numbers.
-/
namespace ScriptProfiling

/-- A bound of a setting: the least value it may have, or one that it has to exceed. -/
structure Bound where
  value : Number
  least : Number
  strict : Bool

namespace Bound

def holds (b : Bound) : Bool := if b.strict then b.value.gt b.least else b.value.ge b.least

/-- What checks ask. -/
def broken (b : Bound) : Bool := if b.strict then b.value.le b.least else b.value.lt b.least

theorem holds_iff {b : Bound} (h : b.broken = false) :
    b.holds = true ↔ b.value ≠ .float .nan ∧ b.least ≠ .float .nan := by
  unfold broken at h
  unfold holds
  cases hstrict : b.strict with
  | true =>
    rw [hstrict] at h
    exact Number.gt_iff_of_not_le h
  | false =>
    rw [hstrict] at h
    exact Number.ge_iff_of_not_lt h

end Bound

namespace Thresholds

/-- The bounds of thresholds, in the order of the fields. -/
def bounds (t : Thresholds) : List Bound :=
  [⟨t.slowMs, .int 0, true⟩, ⟨t.verySlowMs, t.slowMs, false⟩, ⟨t.frequencyCount, .int 0, false⟩,
   ⟨t.frequencyTotalMs, .int 0, false⟩, ⟨t.loopCount, .int 0, false⟩, ⟨t.waitTicks, .int 0, false⟩,
   ⟨t.variableCount, .int 0, false⟩, ⟨t.lowLoad, .int 0, false⟩, ⟨t.maxIssues, .int 1, false⟩,
   ⟨t.topSlowest, .int 1, false⟩]

/-- How many items a report lists at most. -/
def reportLimits (t : Thresholds) : List Number := [t.maxIssues, t.topSlowest]

theorem valid_iff {t : Thresholds} : t.Valid ↔ ∀ b ∈ t.bounds, b.broken = false := by
  simp only [bounds, List.forall_mem_cons]
  constructor
  · intro h
    exact ⟨h.slow, h.verySlow, h.frequencyCount, h.frequencyTotal, h.loopCount, h.waitTicks,
      h.variableCount, h.lowLoad, h.maxIssues, h.topSlowest, fun b hb => absurd hb List.not_mem_nil⟩
  · rintro ⟨hslow, hverySlow, hfrequency, htotal, hloops, hwaits, haccesses, hload, hissues,
      hslowest, -⟩
    exact ⟨hslow, hverySlow, hfrequency, htotal, hloops, hwaits, haccesses, hload, hissues,
      hslowest⟩

theorem valid_default : default.Valid := valid_iff.mpr (by decide)

theorem valid_ofArguments {args : Arguments} {t : Thresholds} (h : ofArguments args = .ok t) :
    t.Valid := (ofArguments_eq_ok.mp h).2.2

/-- A report can be cut at a limit if it is whole; valid limits are whole from one on, or
floating-point numbers. -/
theorem Valid.whole_iff {t : Thresholds} (h : t.Valid) :
    ∀ x ∈ t.reportLimits, (∃ n, 1 ≤ n ∧ x.whole? = some n) ↔ ∀ y, x ≠ .float y := by
  have hwhole : ∀ x : Number, x.lt (.int 1) = false →
      ((∃ n, 1 ≤ n ∧ x.whole? = some n) ↔ ∀ y, x ≠ .float y) := by
    intro x hx
    have hleast : ∀ n, x.whole? = some n → 1 ≤ n := by
      intro n hn
      rw [Number.lt_int hn] at hx
      simpa using hx
    cases x with
    | int n => exact iff_of_true ⟨n, hleast n rfl, rfl⟩ fun y => by simp
    | flag b => exact iff_of_true ⟨_, hleast _ rfl, rfl⟩ fun y => by simp
    | float y => exact iff_of_false (fun ⟨_, _, hn⟩ => by cases hn) fun hnot => hnot y rfl
  exact List.forall_mem_cons.mpr ⟨hwhole _ h.maxIssues, List.forall_mem_singleton.mpr
    (hwhole _ h.topSlowest)⟩

end Thresholds

namespace Settings

/-- The bounds of settings other than the thresholds. -/
def bounds (s : Settings) : List Bound :=
  [⟨s.sampleInterval, .int 0, true⟩, ⟨s.defaultLoad, .int 0, false⟩,
   ⟨s.maxDuration, .int 0, false⟩]

variable {w : Surroundings} {named : Option String} {overrides : Arguments}
  {found : Collection} {t : Thresholds} {s : Settings}

theorem Valid.broken (h : s.Valid) : ∀ b ∈ s.bounds, b.broken = false := by
  simp only [bounds, List.forall_mem_cons]
  exact ⟨h.sampleInterval, h.defaultLoad, h.maxDuration, fun b hb => absurd hb List.not_mem_nil⟩

theorem Valid.finite_iff (h : s.Valid) :
    (∀ y, s.defaultLoad = .float y → y.isFinite = true) ↔
      s.defaultLoad ≠ .float .nan ∧ s.defaultLoad ≠ .float (.infinite false) := by
  constructor
  · intro hfinite
    exact ⟨fun hnan => absurd (hfinite _ hnan) (by decide),
      fun hgreatest => absurd (hfinite _ hgreatest) (by decide)⟩
  · rintro ⟨hnan, hgreatest⟩ y hy
    cases y with
    | nan => exact absurd hy hnan
    | infinite negative =>
      cases negative with
      | false => exact absurd hy hgreatest
      | true =>
        have hload := h.defaultLoad
        rw [hy] at hload
        cases hload
    | finite negative m e hm => rfl

theorem exists_value_of_gather (h : gather w named = .ok found) {x : Setting}
    (hx : found.get? "thresholds" = some x) : ∃ v, x = .value v := by
  obtain ⟨files, thresholds, added, hfiles, -, hadded, hget⟩ := gather_eq_ok h
  rw [hget, settingVariable?_thresholds, Option.map_none, Option.none_or] at hx
  rcases addThresholds_cases hadded with rfl | ⟨fields, rfl⟩
  · rw [get?_addFiles hfiles] at hx
    obtain ⟨v, -, rfl⟩ := Option.map_eq_some_iff.mp hx
    exact ⟨v, rfl⟩
  · rw [Catalog.get?_put, if_pos rfl] at hx
    exact ⟨_, (Option.some.inj hx).symm⟩

/-- Thresholds that are loaded have passed their checks, where those have that the caller gives. -/
theorem valid_limits (hgather : gather w named = .ok found)
    (hthresholds : ∀ t, ("thresholds", .thresholds t) ∈ overrides →
      ∃ args, Thresholds.ofArguments args = .ok t)
    (ht : (found.update overrides).limits = .ok t) : t.Valid := by
  unfold Collection.limits at ht
  split at ht
  · exact Thresholds.valid_ofArguments ht
  · next complete hcomplete =>
    obtain rfl := Except.ok.inj ht
    rw [get?_update] at hcomplete
    rcases Option.or_eq_some_iff.mp hcomplete with hgiven | ⟨-, hfound⟩
    · obtain ⟨args, hargs⟩ := hthresholds complete (Catalog.mem_of_get?_ofList hgiven)
      exact Thresholds.valid_ofArguments hargs
    · obtain ⟨v, hv⟩ := exists_value_of_gather hgather hfound
      cases hv
  · obtain rfl := Except.ok.inj ht
    exact Thresholds.valid_default

/-- Of settings that are loaded each bound holds exactly if it compares numbers that are numbers;
the limits of a report are whole exactly if they are no floating-point numbers; the default load is
finite exactly if it is a number and not the greatest. The extension starts with a dot, and the
format is one of three. -/
theorem load_bounds (hthresholds : ∀ t, ("thresholds", .thresholds t) ∈ overrides →
      ∃ args, Thresholds.ofArguments args = .ok t)
    (h : load w named overrides = .ok s) :
    ∃ t, s.thresholds = .thresholds t ∧
      (∀ b ∈ t.bounds ++ s.bounds,
        b.holds = true ↔ b.value ≠ .float .nan ∧ b.least ≠ .float .nan) ∧
      (∀ x ∈ t.reportLimits, (∃ n, 1 ≤ n ∧ x.whole? = some n) ↔ ∀ y, x ≠ .float y) ∧
      ((∀ y, s.defaultLoad = .float y → y.isFinite = true) ↔
        s.defaultLoad ≠ .float .nan ∧ s.defaultLoad ≠ .float (.infinite false)) ∧
      s.scriptExtension.toList.head? = some '.' ∧
      s.reportFormat.name ∈ ["sender", "console", "both"] := by
  obtain ⟨found, t, args, hgather, ht, hcompletes, hargs⟩ := load_eq_ok h
  have hvalidThresholds := valid_limits hgather hthresholds ht
  obtain ⟨-, -, hvalid⟩ := ofArguments_eq_ok.mp hargs
  refine ⟨t, ?_, fun b hb => ?_, hvalidThresholds.whole_iff, hvalid.finite_iff,
    hvalid.scriptExtension, ?_⟩
  · rw [thresholds_ofArguments hargs, hcompletes.thresholds]
  · rcases List.mem_append.mp hb with hb | hb
    · exact Bound.holds_iff (Thresholds.valid_iff.mp hvalidThresholds b hb)
    · exact Bound.holds_iff (hvalid.broken b hb)
  · cases s.reportFormat <;> decide

/-- A project file with an interval that is no number and a load without bounds. -/
def boundless : Surroundings where
  files := ⟨[(["work", "skript-profiler.toml"],
    .file (encodeUtf8 "load_sample_interval_seconds = nan\ndefault_load = inf\n"))]⟩
  cwd := ⟨.single, ["work"]⟩
  home := "/home/ada"
  environment := []

/-- Thresholds of which one is no number and another one is not whole. -/
def hazyThresholds : Thresholds.Arguments :=
  [("slow_execution_ms", .float .nan), ("max_reported_issues", .float (.nearest false 5 2))]

/-- All of this is loaded; what is not concerned keeps its bounds. -/
theorem load_bounds_boundless :
    ∃ given s t, Thresholds.ofArguments hazyThresholds = .ok given ∧
      load boundless none [("thresholds", .thresholds given)] = .ok s ∧
      s.thresholds = .thresholds t ∧
      (t.bounds ++ s.bounds).map Bound.holds =
        [false, false, true, true, true, true, true, true, true, true, false, true, true] ∧
      (¬∃ n, 1 ≤ n ∧ t.maxIssues.whole? = some n) ∧
      (∃ n, 1 ≤ n ∧ t.topSlowest.whole? = some n) ∧
      ¬∀ y, s.defaultLoad = .float y → y.isFinite = true := by
  have hvalues : (do
      let given ← Thresholds.ofArguments hazyThresholds
      let s ← load boundless none [("thresholds", .thresholds given)]
      let t ← s.limits
      return ((t.bounds ++ s.bounds).map fun (b : Bound) =>
          decide (b.value ≠ Number.float .nan ∧ b.least ≠ Number.float .nan),
        t.maxIssues, t.topSlowest, s.defaultLoad)).toOption =
      some ([false, false, true, true, true, true, true, true, true, true, false, true, true],
        .float (.nearest false 5 2), .int 10, .float (.infinite false)) := by
    decide +kernel
  obtain ⟨given, hgiven, hvalues⟩ := bind_eq_ok.mp (toOption_eq_some.mp hvalues)
  obtain ⟨s, hs, hvalues⟩ := bind_eq_ok.mp hvalues
  have hconstructed : ∀ t, ("thresholds", Setting.thresholds t) ∈
      [("thresholds", .thresholds given)] → ∃ args, Thresholds.ofArguments args = .ok t := by
    intro t ht
    obtain rfl := Setting.thresholds.inj (Prod.mk.inj (List.mem_singleton.mp ht)).2
    exact ⟨_, hgiven⟩
  obtain ⟨t, ht, hbounds, hlimits, hload, -, -⟩ := load_bounds hconstructed hs
  rw [limits, ht] at hvalues
  obtain ⟨hnumbers, hissues, hslowest, hgreatest⟩ : _ ∧ _ ∧ _ ∧ _ := by
    simpa only [Prod.mk.injEq] using Except.ok.inj hvalues
  have hholds : (t.bounds ++ s.bounds).map Bound.holds = (t.bounds ++ s.bounds).map fun b =>
      decide (b.value ≠ .float .nan ∧ b.least ≠ .float .nan) :=
    List.map_congr_left fun b hb =>
      Bool.eq_iff_iff.mpr ((hbounds b hb).trans decide_eq_true_iff.symm)
  refine ⟨given, s, t, hgiven, hs, ht, hholds.trans hnumbers, fun hwhole => ?_, ?_,
    fun hfinite => ?_⟩
  · exact (hlimits t.maxIssues (by simp [Thresholds.reportLimits])).mp hwhole _ hissues
  · refine (hlimits t.topSlowest (by simp [Thresholds.reportLimits])).mpr fun y => ?_
    rw [hslowest]
    exact Number.noConfusion
  · exact (hload.mp hfinite).2 hgreatest

end Settings
end ScriptProfiling
