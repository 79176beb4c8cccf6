import ScriptProfiling.Proofs.Detection.Evaluation

/-!
# The order of issues

Sorting by severity keeps the order of evaluation within each severity, so the result is
the classes of equal severity one after another.
-/
namespace ScriptProfiling

/-- The issues of one severity. -/
def ofSeverity (s : Severity) (issues : List Issue) : List Issue :=
  issues.filter fun i => i.severity = s

/-- Issues in falling severity. -/
def Falling (issues : List Issue) : Prop :=
  issues.Pairwise fun i j => j.severity.rank ≤ i.severity.rank

section Classes

variable {issues : List Issue} {s : Severity}

theorem ofSeverity_eq_nil (h : ∀ i ∈ issues, i.severity.rank < s.rank) :
    ofSeverity s issues = [] := by
  apply List.filter_eq_nil_iff.mpr
  intro i hi heq
  have hlt := h i hi
  rw [of_decide_eq_true heq] at hlt
  exact lt_irrefl _ hlt

theorem pairwise_ofSeverity :
    (ofSeverity s issues).Pairwise fun i j => j.severity.rank ≤ i.severity.rank := by
  rw [List.pairwise_iff_forall_sublist]
  intro i j hij
  have hmem : ∀ k ∈ [i, j], k.severity = s := by
    intro k hk
    exact of_decide_eq_true (List.mem_filter.mp (hij.subset hk)).2
  rw [hmem i (by simp), hmem j (by simp)]

theorem ofSeverity_cons_of_ne {i : Issue} (h : i.severity ≠ s) :
    ofSeverity s (i :: issues) = ofSeverity s issues :=
  List.filter_cons_of_neg (by simpa using h)

theorem ofSeverity_cons_self (i : Issue) :
    ofSeverity i.severity (i :: issues) = i :: ofSeverity i.severity issues :=
  List.filter_cons_of_pos (by simp)

theorem Severity.all_split (s : Severity) : ∃ above below, Severity.all = above ++ s :: below ∧
    (∀ r ∈ above, s.rank < r.rank) ∧ ∀ r ∈ below, s ≠ r := by
  cases s with
  | critical => exact ⟨[], [.high, .medium, .low], rfl, by decide, by decide⟩
  | high => exact ⟨[.critical], [.medium, .low], rfl, by decide, by decide⟩
  | medium => exact ⟨[.critical, .high], [.low], rfl, by decide, by decide⟩
  | low => exact ⟨[.critical, .high, .medium], [], rfl, by decide, by decide⟩

/-- A list in falling severity is its classes, one after another. -/
theorem Falling.eq_classes (h : Falling issues) :
    issues = Severity.all.flatMap fun s => ofSeverity s issues := by
  induction issues with
  | nil => rfl
  | cons i issues ih =>
    obtain ⟨hi, hissues⟩ := List.pairwise_cons.mp h
    obtain ⟨above, below, hall, habove, hbelow⟩ := Severity.all_split i.severity
    -- Nothing is more severe than the head, so its class comes first.
    have hempty : ∀ r ∈ above, ofSeverity r issues = [] := by
      intro r hr
      exact ofSeverity_eq_nil fun j hj => (hi j hj).trans_lt (habove r hr)
    have hempty' : ∀ r ∈ above, ofSeverity r (i :: issues) = [] := by
      intro r hr
      have hne : i.severity ≠ r := fun heq => (habove r hr).ne (congrArg Severity.rank heq)
      rw [ofSeverity_cons_of_ne hne, hempty r hr]
    have hlater : below.flatMap (fun r => ofSeverity r (i :: issues)) =
        below.flatMap fun r => ofSeverity r issues := by
      apply List.flatMap_congr
      intro r hr
      exact ofSeverity_cons_of_ne (hbelow r hr)
    have hrest := ih hissues
    rw [hall, List.flatMap_append, List.flatMap_eq_nil_iff.mpr hempty, List.nil_append,
      List.flatMap_cons] at hrest
    rw [hall, List.flatMap_append, List.flatMap_eq_nil_iff.mpr hempty', List.nil_append,
      List.flatMap_cons, ofSeverity_cons_self, hlater, List.cons_append, ← hrest]

end Classes

namespace Detection

/-- What sorting compares. -/
def noLessSevere (i j : Issue) : Bool := decide (j.severity.rank ≤ i.severity.rank)

theorem noLessSevere_trans (i j k : Issue) (hij : noLessSevere i j) (hjk : noLessSevere j k) :
    noLessSevere i k :=
  decide_eq_true ((of_decide_eq_true hjk).trans (of_decide_eq_true hij))

theorem noLessSevere_total (i j : Issue) : noLessSevere i j || noLessSevere j i := by
  simp only [noLessSevere, Bool.or_eq_true, decide_eq_true_eq]
  exact le_total _ _

variable {issues : List Issue}

theorem bySeverity_perm (issues : List Issue) : (bySeverity issues).Perm issues :=
  List.mergeSort_perm ..

theorem falling_bySeverity (issues : List Issue) : Falling (bySeverity issues) :=
  (List.pairwise_mergeSort noLessSevere_trans noLessSevere_total issues).imp of_decide_eq_true

/-- Issues of one severity stay in their order. -/
theorem ofSeverity_bySeverity (s : Severity) (issues : List Issue) :
    ofSeverity s (bySeverity issues) = ofSeverity s issues := by
  have hclass : (ofSeverity s issues).Sublist (bySeverity issues) :=
    List.sublist_mergeSort noLessSevere_trans noLessSevere_total
      (pairwise_ofSeverity.imp decide_eq_true) List.filter_sublist
  have hkept : (ofSeverity s issues).Sublist (ofSeverity s (bySeverity issues)) := by
    have hfiltered := hclass.filter fun i => decide (i.severity = s)
    simpa [ofSeverity, List.filter_filter] using hfiltered
  have hlength := ((bySeverity_perm issues).filter fun i => decide (i.severity = s)).length_eq
  exact (hkept.eq_of_length hlength.symm).symm

end Detection

variable {metrics : Metrics} {scripts : Scripts} {t : Thresholds} {load : Value}
  {issues : List Issue}

theorem detect_eq_ok (h : detect metrics scripts t load = .ok issues) :
    ∃ evaluation, Detection.found metrics scripts t load = .ok evaluation ∧
      Detection.bySeverity evaluation = issues :=
  map_eq_ok.mp h

/-- Issues fall in severity, and each severity keeps the order of evaluation: none is lost
and none doubled. -/
theorem detect_ordered (h : detect metrics scripts t load = .ok issues) :
    ∃ evaluation, Detection.found metrics scripts t load = .ok evaluation ∧
      Detection.InOrder
        (Detection.verdict metrics scripts t load Detection.notAtLeast) evaluation ∧
      Falling issues ∧
      (∀ s, ofSeverity s issues = ofSeverity s evaluation) ∧
      issues = Severity.all.flatMap (fun s => ofSeverity s evaluation) ∧
      issues.Perm evaluation := by
  obtain ⟨evaluation, hfound, rfl⟩ := detect_eq_ok h
  have hclass := fun s => Detection.ofSeverity_bySeverity s evaluation
  have hfalling := Detection.falling_bySeverity evaluation
  refine ⟨evaluation, hfound, Detection.found_inOrder hfound, hfalling, hclass, ?_,
    Detection.bySeverity_perm evaluation⟩
  conv_lhs => rw [hfalling.eq_classes]
  simp only [hclass]

/-- A loop that runs often and takes most of the time, and a slow event that ran after it. -/
def busyRecords : Metrics :=
  let loop : MetricKey := ⟨"shop.sk", 4, "loop"⟩
  let join : MetricKey := ⟨"shop.sk", 1, "event"⟩
  .ofList [(loop, ⟨loop, "loop", 1500, 1500000000, 9000000, some 1000000⟩),
    (join, ⟨join, "on join", 2, 300000000, 250000000, some 50000000⟩)]

/-- A script that waits before that loop and in it. -/
def busyScripts : Scripts :=
  .ofList [("shop.sk", {
    path := "shop.sk"
    name := "shop.sk"
    lines := []
    labels := .empty
    loopLines := [4]
    waits := .ofList [(4, ⟨10, "seconds"⟩), (3, ⟨1, "minute"⟩)]
    events := 1
    functions := 0
    commands := 0
    loops := 1
    variableAccesses := 0 })]

/-- What is found in them at a load of twelve, in the order of the result. -/
def busySites : List Site :=
  let loop : MetricKey := ⟨"shop.sk", 4, "loop"⟩
  [⟨.slowEvent, .critical, "shop.sk", 1, some ⟨"shop.sk", 1, "event"⟩⟩,
    ⟨.highFrequency, .high, "shop.sk", 4, some loop⟩,
    ⟨.loadImpact, .high, "shop.sk", 4, some loop⟩,
    ⟨.inefficientLoop, .medium, "shop.sk", 4, some loop⟩,
    ⟨.longWait, .low, "shop.sk", 3, none⟩,
    ⟨.longWait, .low, "shop.sk", 4, none⟩]

theorem detect_busyDay : ∃ issues,
    detect busyRecords busyScripts .default (.int 12) = .ok issues ∧
      issues.map Issue.site = busySites := by
  have hclasses : ((Detection.found busyRecords busyScripts .default (.int 12)).toOption.map
      fun evaluation => (Severity.all.flatMap fun s => ofSeverity s evaluation).map Issue.site) =
        some busySites := by
    decide +kernel
  obtain ⟨found, hoption, hsites⟩ := Option.map_eq_some_iff.mp hclasses
  have hfound := toOption_eq_some.mp hoption
  have hdetect : detect busyRecords busyScripts .default (.int 12) =
      .ok (Detection.bySeverity found) :=
    map_eq_ok.mpr ⟨found, hfound, rfl⟩
  obtain ⟨evaluation, hevaluation, -, -, -, hissues, -⟩ := detect_ordered hdetect
  obtain rfl := Except.ok.inj (hfound.symm.trans hevaluation)
  refine ⟨_, hdetect, ?_⟩
  rw [hissues, hsites]

end ScriptProfiling
