import ScriptProfiling.Proofs.Detection.Totality
import ScriptProfiling.Report.Data
import Mathlib.Algebra.Order.BigOperators.Group.List

/-!
# When reports give a result

Both reports divide the times of records. The text report also writes whole numbers: the
executions of all records together, and of each record, issue and script that it lists the
number of the line and the counts. The structured report keeps whole numbers as they are,
however large.

What a text report lists is known only when its records have been rated, so what it fails on is
said of the lists that the report itself makes.
-/
namespace ScriptProfiling

/-- All executions of the records together. -/
def Metrics.executions (metrics : Metrics) : Int := (metrics.values.map Record.count).sum

section Executions

variable {metrics : Metrics}

theorem foldl_count (records : List (Record Int)) (start : Int) :
    records.foldl (fun total r => total + r.count) start =
      start + (records.map Record.count).sum := by
  induction records generalizing start with
  | nil => simp
  | cons r records ih =>
    rw [List.foldl_cons, ih, List.map_cons, List.sum_cons, Int.add_assoc]

theorem executions_of_isEmpty (h : metrics.isEmpty = true) : Metrics.executions metrics = 0 := by
  have hvalues : metrics.values = [] := by
    rw [Catalog.values, List.isEmpty_iff.mp h, List.map_nil]
  rw [Metrics.executions, hvalues]
  rfl

theorem withinDigits_count (hcounts : ∀ r ∈ metrics.values, 0 ≤ r.count)
    (h : WithinDigits (Metrics.executions metrics)) {r : Record Int} (hr : r ∈ metrics.values) :
    WithinDigits r.count := by
  have hall : ∀ n ∈ metrics.values.map Record.count, 0 ≤ n := by
    intro n hn
    obtain ⟨q, hq, rfl⟩ := List.mem_map.mp hn
    exact hcounts q hq
  have hle : r.count ≤ Metrics.executions metrics :=
    List.single_le_sum hall _ (List.mem_map_of_mem hr)
  have hnonneg : 0 ≤ r.count := hcounts r hr
  unfold WithinDigits at h ⊢
  omega

end Executions

/-- Where a line of a file is, however long its number. -/
def MetricKey.placeText (file : String) (line : Int) : String := file ++ ":" ++ wholeText line

theorem wholeTextLimited_eq_ok {n : Int} {text : String} :
    wholeTextLimited n = .ok text ↔ WithinDigits n ∧ text = wholeText n := by
  rw [← length_numeral_le_digitLimit_iff, wholeTextLimited]
  split
  · next h => simp [h, eq_comm]
  · next h => simp [h]

/-- The counts of a script can be written. -/
def ScriptInfo.Countable (s : ScriptInfo) : Prop :=
  ∀ n ∈ [s.events, s.functions, s.commands, s.loops, s.variableAccesses], WithinDigits n

instance (s : ScriptInfo) : Decidable s.Countable := List.decidableBAll _ _

namespace Report

section Places

/-- The place of a line with the short name of its file. -/
def shortPlace (file : String) (line : Int) : String :=
  MetricKey.placeText (String.ofList (shortFileName file.toList)) line

variable {file : String} {line : Int}

theorem shortLocation_eq_ok {place : String} :
    shortLocation file line = .ok place ↔ WithinDigits line ∧ place = shortPlace file line := by
  constructor
  · intro h
    obtain ⟨number, hnumber, h⟩ := bind_eq_ok.mp h
    obtain rfl := pure_eq_ok.mp h
    obtain ⟨hline, rfl⟩ := wholeTextLimited_eq_ok.mp hnumber
    exact ⟨hline, rfl⟩
  · rintro ⟨hline, rfl⟩
    exact bind_eq_ok.mpr ⟨_, wholeTextLimited_eq_ok.mpr ⟨hline, rfl⟩, rfl⟩

theorem isOk_shortLocation : (shortLocation file line).isOk = true ↔ WithinDigits line := by
  simp only [isOk_iff, shortLocation_eq_ok, exists_and_left, exists_eq, and_true]

end Places

section Parts

variable {records : List (Record Int)}

theorem mem_of_firstOf {α : Type} {limit : Number} {xs listed : List α}
    (h : firstOf limit xs = .ok listed) : ∀ x ∈ listed, x ∈ xs := by
  unfold firstOf at h
  split at h
  · obtain rfl := Except.ok.inj h
    exact fun x hx => List.mem_of_mem_take hx
  · cases h

theorem isOk_firstOf {α : Type} (limit : Number) (h : limit.whole?.isSome) (xs : List α) :
    ∃ listed, firstOf limit xs = .ok listed ∧ ∀ x ∈ listed, x ∈ xs := by
  obtain ⟨n, hn⟩ := Option.isSome_iff_exists.mp h
  have hlisted : firstOf limit xs = .ok (xs.take n.toNat) := by
    unfold firstOf
    rw [hn]
  exact ⟨_, hlisted, mem_of_firstOf hlisted⟩

theorem mem_of_slowestFirst {rated : List Rated} (h : slowestFirst records = .ok rated) :
    ∀ r ∈ rated, r.record ∈ records := by
  obtain ⟨all, hall, rfl⟩ := map_eq_ok.mp h
  intro r hr
  obtain ⟨q, hq, hrate⟩ := exists_of_mem_mapM hall (List.mem_mergeSort.mp hr)
  obtain ⟨average, -, rfl⟩ := map_eq_ok.mp hrate
  exact hq

theorem isOk_slowestFirst (h : ∀ r ∈ records, r.averageMs.isOk = true) :
    ∃ rated, slowestFirst records = .ok rated ∧ ∀ r ∈ rated, r.record ∈ records := by
  have hrated : (slowestFirst records).isOk = true := by
    rw [slowestFirst, isOk_map, isOk_mapM]
    intro r hr
    rw [rate, isOk_map]
    exact h r hr
  obtain ⟨rated, hrated⟩ := isOk_iff.mp hrated
  exact ⟨rated, hrated, mem_of_slowestFirst hrated⟩

theorem mem_of_mem_ranked {α : Type} {xs : List α} {rank : Nat} {p : Nat × α}
    (h : p ∈ ranked rank xs) : p.2 ∈ xs := by
  induction xs generalizing rank with
  | nil => cases h
  | cons x xs ih =>
    rcases List.mem_cons.mp h with rfl | h
    · exact List.mem_cons_self
    · exact List.mem_cons_of_mem x (ih h)

theorem forall_ranked {α : Type} {xs : List α} {rank : Nat} {P : α → Prop} :
    (∀ p ∈ ranked rank xs, P p.2) ↔ ∀ x ∈ xs, P x := by
  induction xs generalizing rank with
  | nil => simp [ranked]
  | cons x xs ih => rw [ranked, List.forall_mem_cons, List.forall_mem_cons, ih]

theorem isOk_slowLines {r : Rated} (h : r.record.Measured) (hcount : WithinDigits r.record.count)
    (rank : Nat) : (slowLines rank r).isOk = true ↔ WithinDigits r.record.key.line := by
  obtain ⟨longest, hlongest⟩ := isOk_iff.mp ((Record.isOk_millis r.record.longest).mpr h.longest)
  obtain ⟨count, hcount⟩ := isOk_iff.mp ((isOk_wholeTextLimited r.record.count).mpr hcount)
  rw [← @isOk_shortLocation r.record.key.file]
  unfold slowLines Record.longestMs
  rw [hlongest, hcount]
  cases shortLocation r.record.key.file r.record.key.line <;> rfl

theorem isOk_breakdownLine {r : Rated} (hcount : WithinDigits r.record.count) :
    (breakdownLine r).isOk = true ↔ WithinDigits r.record.key.line := by
  obtain ⟨count, hcount⟩ := isOk_iff.mp ((isOk_wholeTextLimited r.record.count).mpr hcount)
  rw [← isOk_wholeTextLimited]
  unfold breakdownLine
  rw [hcount]
  cases wholeTextLimited r.record.key.line <;> rfl

theorem isOk_issueLines (t : Thresholds) (i : Issue) :
    (issueLines t i).isOk = true ↔ WithinDigits i.line := by
  rw [← @isOk_shortLocation i.file]
  unfold issueLines
  cases shortLocation i.file i.line <;> rfl

theorem isOk_factLines (s : ScriptInfo) : (factLines s).isOk = true ↔ s.Countable := by
  unfold factLines ScriptInfo.Countable
  simp only [isOk_bind, isOk_pure, and_true, ← isOk_iff, isOk_wholeTextLimited, exists_and_right,
    List.forall_mem_cons, List.not_mem_nil, false_implies, implies_true]

theorem filesOf_concat (r : Record Int) : filesOf (records ++ [r]) =
    if r.key.file ∈ filesOf records then filesOf records else filesOf records ++ [r.key.file] := by
  unfold filesOf
  rw [List.foldl_append, List.foldl_cons, List.foldl_nil, Catalog.keys_put]

theorem mem_filesOf {file : String} :
    file ∈ filesOf records ↔ ∃ r ∈ records, r.key.file = file := by
  induction records using List.reverseRecOn with
  | nil => simp [filesOf, Catalog.keys, Catalog.empty]
  | append_singleton records r ih =>
    have hconcat : (∃ q ∈ records ++ [r], q.key.file = file) ↔
        file ∈ filesOf records ∨ r.key.file = file := by
      simp only [List.mem_append, List.mem_singleton, or_and_right, exists_or, exists_eq_left, ih]
    rw [hconcat, filesOf_concat]
    split
    · next hknown =>
      refine (or_iff_left_of_imp ?_).symm
      rintro rfl
      exact hknown
    · rw [List.mem_append, List.mem_singleton, eq_comm (a := file)]

/-- The line numbers of the slowest records, as many as a limit lets a list show, can be
written. -/
def ShortLines (limit : Number) (records : List (Record Int)) : Prop :=
  ∀ listed, slowestFirst records >>= firstOf limit = .ok listed →
    ∀ r ∈ listed, WithinDigits r.record.key.line

theorem shortLines_of_forall (h : ∀ r ∈ records, WithinDigits r.key.line) (limit : Number) :
    ShortLines limit records := by
  intro listed hlisted r hr
  obtain ⟨rated, hrated, hlisted⟩ := bind_eq_ok.mp hlisted
  exact h r.record (mem_of_slowestFirst hrated r (mem_of_firstOf hlisted r hr))

end Parts

section Text

variable {t : Thresholds} {default : Number} {input : ReportInput}

/-- What a text report lists of its records, issues and scripts can be written. -/
structure Writable (t : Thresholds) (input : ReportInput) : Prop where
  slowest : ShortLines t.topSlowest input.metrics.values
  issues : ∀ listed, firstOf t.maxIssues input.issues = .ok listed →
    ∀ i ∈ listed, WithinDigits i.line
  facts : ∀ r ∈ input.metrics.values, ∀ info ∈ input.scripts.get? r.key.file, info.Countable
  files : ∀ r ∈ input.metrics.values,
    ShortLines linesPerScript (input.metrics.values.filter (·.key.file == r.key.file))

/-- The default takes the place of a load that is of no use, which is the default itself. -/
theorem isOk_resolveLoad (hload : input.load.Stands default) :
    (∃ load, resolveLoad default input.load = .ok load ∧ load.toFloat.isOk = true) ↔
      input.load.IsLoad := by
  rcases hload with hload | ⟨x, husable, hload⟩
  · have hresolved : resolveLoad default input.load = (default.toFloat.map fun _ => default) := by
      rw [resolveLoad, hload, usableLoad?_toValue]
      cases default.toFloat with
      | error e => rfl
      | ok y =>
        change Except.ok (Option.getD (ite _ _ _) default) = Except.ok default
        split <;> rfl
    rw [hresolved, hload]
    constructor
    · rintro ⟨load, hmap, -⟩
      obtain ⟨y, hy, -⟩ := map_eq_ok.mp hmap
      exact ⟨default, rfl, isOk_iff.mpr ⟨y, hy⟩⟩
    · rintro ⟨z, hz, hfloat⟩
      obtain rfl : default = z := Option.some.inj
        ((Number.number?_toValue default).symm.trans (hz ▸ Number.number?_toValue z))
      obtain ⟨y, hy⟩ := isOk_iff.mp hfloat
      exact ⟨default, by rw [hy]; rfl, hfloat⟩
  · refine iff_of_true ⟨.float x, ?_, rfl⟩ ⟨.float x, hload, rfl⟩
    have husable' : (x.isFinite && (Number.float x).ge (.int 0)) = true := husable
    rw [resolveLoad, hload]
    change Except.ok (Option.getD (ite _ _ _) default) = _
    rw [if_pos husable']
    rfl

theorem isOk_summary (load : Number) :
    (summary input load).isOk = true ↔
      (∀ r ∈ input.metrics.values, Quotable r.total nanosPerMilli) ∧
      input.durationMs.toFloat.isOk = true ∧ load.toFloat.isOk = true ∧
      WithinDigits (Metrics.executions input.metrics) := by
  have htotals : (input.metrics.values.mapM Record.totalMs).isOk = true ↔
      ∀ r ∈ input.metrics.values, Quotable r.total nanosPerMilli :=
    isOk_mapM.trans (forall₂_congr fun r _ => Record.isOk_millis r.total)
  rw [← htotals, ← load.isOk_hundredths, Metrics.executions, ← isOk_wholeTextLimited]
  unfold summary
  simp only [foldl_count, Int.zero_add, isOk_bind, isOk_pure, and_true, ← isOk_iff,
    exists_and_right]

/-- Without the breakdown a report fails on nothing that it does not fail on with it. -/
theorem isOk_lines : (∀ detailed, (lines t default input detailed).isOk = true) ↔
    (∃ load, resolveLoad default input.load = .ok load ∧ (summary input load).isOk = true) ∧
      (slowestSection t input.metrics.values).isOk = true ∧
      (issuesSection t input.issues).isOk = true ∧ (breakdown input).isOk = true := by
  have hlines : ∀ detailed, (lines t default input detailed).isOk = true ↔
      (∃ load, resolveLoad default input.load = .ok load ∧ (summary input load).isOk = true) ∧
        (slowestSection t input.metrics.values).isOk = true ∧
        (issuesSection t input.issues).isOk = true ∧
        (detailed = true → (breakdown input).isOk = true) := by
    intro detailed
    unfold lines
    cases detailed with
    | false =>
      simp only [Bool.false_eq_true, if_false, false_implies, ok_bind, isOk_bind, isOk_pure,
        and_true, ← isOk_iff, ← and_assoc, exists_and_right]
    | true =>
      simp only [if_true, true_implies, isOk_bind, isOk_pure, and_true, ← isOk_iff, isOk_map,
        ← and_assoc, exists_and_right]
  constructor
  · intro h
    obtain ⟨hsummary, hslowest, hissues, hbreakdown⟩ := (hlines true).mp (h true)
    exact ⟨hsummary, hslowest, hissues, hbreakdown rfl⟩
  · rintro ⟨hsummary, hslowest, hissues, hbreakdown⟩ detailed
    exact (hlines detailed).mpr ⟨hsummary, hslowest, hissues, fun _ => hbreakdown⟩

theorem isOk_issuesSection (hmax : t.maxIssues.whole?.isSome) (issues : List Issue) :
    (issuesSection t issues).isOk = true ↔
      ∀ listed, firstOf t.maxIssues issues = .ok listed → ∀ i ∈ listed, WithinDigits i.line := by
  obtain ⟨listed, hlisted, hsub⟩ := isOk_firstOf t.maxIssues hmax issues
  have hlines : (listed.mapM (issueLines t)).isOk = true ↔ ∀ i ∈ listed, WithinDigits i.line :=
    isOk_mapM.trans (forall₂_congr fun i _ => isOk_issueLines t i)
  simp only [hlisted, Except.ok.injEq, forall_eq', ← hlines]
  cases issues with
  | nil =>
    obtain rfl : listed = [] := List.eq_nil_iff_forall_not_mem.mpr fun i hi =>
      List.not_mem_nil (hsub i hi)
    exact iff_of_true rfl rfl
  | cons i issues =>
    have hsection : issuesSection t (i :: issues) = (listed.mapM (issueLines t) >>= fun lines =>
        pure (heading "Performance Issues Detected:" ::
          (lines.flatten ++ hiddenLines t (i :: issues).length))) := by
      rw [issuesSection, hlisted]
      rfl
    rw [hsection]
    simp only [isOk_bind, isOk_pure, and_true, ← isOk_iff]

variable (hrecords : ∀ r ∈ input.metrics.values, r.Measured)
  (hcounts : ∀ r ∈ input.metrics.values, WithinDigits r.count)

include hrecords

theorem isOk_averages : ∀ r ∈ input.metrics.values, r.averageMs.isOk = true :=
  fun r hr => r.isOk_averageMs.mpr (hrecords r hr).average

include hcounts

theorem isOk_slowestSection (htop : t.topSlowest.whole?.isSome) :
    (slowestSection t input.metrics.values).isOk = true ↔
      ShortLines t.topSlowest input.metrics.values := by
  obtain ⟨rated, hrated, hmem⟩ := isOk_slowestFirst (isOk_averages hrecords)
  obtain ⟨listed, hlisted, hsub⟩ := isOk_firstOf t.topSlowest htop rated
  have hlines : ((ranked 1 listed).mapM fun r => slowLines r.1 r.2).isOk = true ↔
      ∀ r ∈ listed, WithinDigits r.record.key.line := by
    rw [isOk_mapM, ← @forall_ranked _ listed 1 fun r => WithinDigits r.record.key.line]
    refine forall₂_congr fun r hr => ?_
    have hrecord := hmem r.2 (hsub r.2 (mem_of_mem_ranked hr))
    exact isOk_slowLines (hrecords _ hrecord) (hcounts _ hrecord) r.1
  unfold ShortLines slowestSection
  simp only [hrated, ok_bind, hlisted, Except.ok.injEq, forall_eq', ← hlines, isOk_bind, isOk_pure,
    and_true, ← isOk_iff]

theorem isOk_fileBlock (file : String) : (fileBlock input file).isOk = true ↔
    (∀ info ∈ input.scripts.get? file, info.Countable) ∧
      ShortLines linesPerScript (input.metrics.values.filter (·.key.file == file)) := by
  have hsub : ∀ r ∈ input.metrics.values.filter (·.key.file == file), r ∈ input.metrics.values :=
    fun r hr => (List.mem_filter.mp hr).1
  obtain ⟨rated, hrated, hmem⟩ := isOk_slowestFirst fun r hr => isOk_averages hrecords r (hsub r hr)
  obtain ⟨listed, hlisted, hlistedSub⟩ := isOk_firstOf linesPerScript rfl rated
  have hlines : (listed.mapM breakdownLine).isOk = true ↔
      ∀ r ∈ listed, WithinDigits r.record.key.line :=
    isOk_mapM.trans (forall₂_congr fun r hr =>
      isOk_breakdownLine (hcounts _ (hsub _ (hmem r (hlistedSub r hr)))))
  have hfacts : (knownFacts input file).isOk = true ↔
      ∀ info ∈ input.scripts.get? file, info.Countable := by
    unfold knownFacts
    cases input.scripts.get? file with
    | none => exact iff_of_true rfl nofun
    | some info => simpa using isOk_factLines info
  unfold ShortLines fileBlock
  simp only [hrated, ok_bind, hlisted, Except.ok.injEq, forall_eq', ← hlines, ← hfacts, isOk_bind,
    isOk_pure, and_true, ← isOk_iff, exists_and_right]

theorem isOk_breakdown : (breakdown input).isOk = true ↔
    (∀ r ∈ input.metrics.values, ∀ info ∈ input.scripts.get? r.key.file, info.Countable) ∧
      ∀ r ∈ input.metrics.values,
        ShortLines linesPerScript (input.metrics.values.filter (·.key.file == r.key.file)) := by
  have hblocks : (breakdown input).isOk = true ↔
      ∀ r ∈ input.metrics.values, (fileBlock input r.key.file).isOk = true := by
    unfold breakdown
    simp only [isOk_bind, isOk_pure, and_true, ← isOk_iff, isOk_mapM, mem_filesOf]
    exact ⟨fun h r hr => h _ ⟨r, hr, rfl⟩, fun h file ⟨r, hr, hfile⟩ => hfile ▸ h r hr⟩
  rw [hblocks, ← forall₂_and]
  exact forall₂_congr fun r _ => isOk_fileBlock hrecords hcounts r.key.file

/-- With records that can be measured, what is left to fail is the load and what is written. -/
theorem isOk_render_iff (htop : t.topSlowest.whole?.isSome) (hmax : t.maxIssues.whole?.isSome)
    (hload : input.load.Stands default)
    (hduration : input.durationMs.toFloat.isOk = true)
    (hexecutions : WithinDigits (Metrics.executions input.metrics)) :
    (∀ detailed, (render t default input detailed).isOk = true) ↔
      (input.metrics.isEmpty = false → input.load.IsLoad ∧ Writable t input) := by
  have htotals : ∀ r ∈ input.metrics.values, Quotable r.total nanosPerMilli :=
    fun r hr => (hrecords r hr).total
  cases hempty : input.metrics.isEmpty with
  | true =>
    refine iff_of_true (fun detailed => ?_) nofun
    rw [render, if_pos hempty]
    rfl
  | false =>
    have hrender : ∀ detailed, (render t default input detailed).isOk =
        (lines t default input detailed).isOk := by
      intro detailed
      rw [render, if_neg (by simp [hempty]), isOk_map]
    simp only [hrender, isOk_lines, isOk_summary, isOk_slowestSection hrecords hcounts htop,
      isOk_issuesSection hmax, isOk_breakdown hrecords hcounts, true_implies,
      ← isOk_resolveLoad hload]
    constructor
    · rintro ⟨⟨load, hresolved, -, -, hfloat, -⟩, hslowest, hissues, hfacts, hfiles⟩
      exact ⟨⟨load, hresolved, hfloat⟩, hslowest, hissues, hfacts, hfiles⟩
    · rintro ⟨⟨load, hresolved, hfloat⟩, hslowest, hissues, hfacts, hfiles⟩
      exact ⟨⟨load, hresolved, htotals, hduration, hfloat, hexecutions⟩, hslowest, hissues, hfacts,
        hfiles⟩

omit hrecords hcounts

theorem Writable.of_forall (hlines : ∀ r ∈ input.metrics.values, WithinDigits r.key.line)
    (hissues : ∀ i ∈ input.issues, WithinDigits i.line)
    (hscripts : ∀ info ∈ input.scripts.values, info.Countable) : Writable t input where
  slowest := shortLines_of_forall hlines _
  issues _ hlisted i hi := hissues i (mem_of_firstOf hlisted i hi)
  facts _ _ info hinfo := hscripts info (Catalog.mem_values_of_get? hinfo)
  files _ _ := shortLines_of_forall (fun r hr => hlines r (List.mem_filter.mp hr).1) _

/-- All numbers of an input can be written. -/
structure Modest (input : ReportInput) : Prop where
  records : ∀ r ∈ input.metrics.values,
    r.Measured ∧ WithinDigits r.count ∧ WithinDigits r.key.line
  executions : WithinDigits (Metrics.executions input.metrics)
  issues : ∀ i ∈ input.issues, WithinDigits i.line
  scripts : ∀ info ∈ input.scripts.values, info.Countable
  duration : input.durationMs.toFloat.isOk = true
  load : input.load.IsLoad

theorem Modest.isOk_render (h : Modest input) (htop : t.topSlowest.whole?.isSome)
    (hmax : t.maxIssues.whole?.isSome) (hload : input.load.Stands default) (detailed : Bool) :
    (render t default input detailed).isOk = true := by
  have hrecords : ∀ r ∈ input.metrics.values, r.Measured := fun r hr => (h.records r hr).1
  have hcounts : ∀ r ∈ input.metrics.values, WithinDigits r.count :=
    fun r hr => (h.records r hr).2.1
  have hwritable : Writable t input :=
    .of_forall (fun r hr => (h.records r hr).2.2) h.issues h.scripts
  exact (isOk_render_iff hrecords hcounts htop hmax hload h.duration h.executions).mpr
    (fun _ => ⟨h.load, hwritable⟩) detailed

end Text

/-- A text report over records tells all executions together. -/
theorem withinDigits_of_render {t : Thresholds} {default : Number} {input : ReportInput}
    {detailed : Bool} (h : (render t default input detailed).isOk = true) :
    WithinDigits (Metrics.executions input.metrics) := by
  unfold render at h
  split at h
  · next hempty =>
    rw [executions_of_isEmpty hempty]
    exact withinDigits_zero
  · rw [isOk_map] at h
    obtain ⟨load, -, h⟩ := isOk_bind.mp h
    obtain ⟨overview, hoverview, -⟩ := isOk_bind.mp h
    exact ((isOk_summary load).mp (isOk_iff.mpr ⟨overview, hoverview⟩)).2.2.2

section Data

theorem isOk_rounded (x : Except Fault Binary64) : (rounded x).isOk = x.isOk := isOk_map x _

theorem isOk_recordJson (r : Record Int) : (recordJson r).isOk = true ↔ r.Measured := by
  have hsteps : (recordJson r).isOk = true ↔ (rounded r.totalMs).isOk = true ∧
      (rounded r.averageMs).isOk = true ∧ (rounded r.longestMs).isOk = true ∧
      (rounded r.shortestMs).isOk = true := by
    unfold recordJson
    simp only [isOk_bind, isOk_pure, and_true, ← isOk_iff, exists_and_right]
  rw [hsteps, isOk_rounded, isOk_rounded, isOk_rounded, isOk_rounded, r.isOk_averageMs,
    r.isOk_shortestMs, Record.totalMs, Record.isOk_millis, Record.longestMs, Record.isOk_millis]
  constructor
  · rintro ⟨htotal, haverage, hlongest, hshortest⟩
    exact ⟨haverage, htotal, hlongest, hshortest⟩
  · exact fun h => ⟨h.total, h.average, h.longest, h.shortest⟩

/-- Any number can stand in data, however large. -/
theorem isOk_valueJson (x : Number) : (valueJson x.toValue).isOk = true := by
  cases x <;> rfl

theorem isOk_data {input : ReportInput} {x : Number} (hload : input.load = x.toValue) :
    (data input).isOk = true ↔ ∀ r ∈ input.metrics.values, r.Measured := by
  obtain ⟨load, hload⟩ := isOk_iff.mp (hload ▸ isOk_valueJson x)
  unfold data
  simp only [hload, isOk_bind, isOk_pure, and_true, Except.ok.injEq, exists_eq', ← isOk_iff,
    isOk_mapM, isOk_recordJson]

end Data

end Report
end ScriptProfiling
