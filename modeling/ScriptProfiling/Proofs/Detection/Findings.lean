import ScriptProfiling.Proofs.Detection.Origin
import ScriptProfiling.Proofs.Partial

/-!
# What the rules find

Each rule, when it gives a result, gives the issue that its verdict names or none. Put
together, the issues in the order in which the rules find them are the verdicts of all
origins in the order of evaluation.
-/
namespace ScriptProfiling
namespace Detection

section Rules

variable {metrics : Metrics} {t : Thresholds} {r : Record Int} {s : ScriptInfo} {line : Int}
  {issues : List Issue}

theorem slowEvent_sites {average longest : Binary64} (ha : r.averageMs = .ok average)
    (hl : r.longestMs = .ok longest) :
    (slowEvent t r average longest).map Issue.site = (slowSite t r).toList := by
  have hvery : verySlow t r = (Number.float longest).ge t.verySlowMs := by
    simp [verySlow, hl, Except.toOption]
  have hslow : slow t r = (Number.float average).ge t.slowMs := by
    simp [slow, ha, Except.toOption]
  unfold slowEvent slowSite
  rw [hvery, hslow]
  split
  · rfl
  · split <;> rfl

theorem highFrequency_sites (h : highFrequency t r = .ok issues) :
    issues.map Issue.site = (frequentSite t r).toList := by
  unfold highFrequency at h
  unfold frequentSite
  split at h
  · next hcount =>
    obtain ⟨total, ht, h⟩ := bind_eq_ok.mp h
    obtain ⟨count, -, h⟩ := bind_eq_ok.mp h
    obtain rfl := pure_eq_ok.mp h
    have hcostly : costly t r = (Number.float total).gt t.frequencyTotalMs := by
      simp [costly, ht, Except.toOption]
    rw [if_pos hcount, hcostly]
    rfl
  · next hcount =>
    obtain rfl := Except.ok.inj h
    rw [if_neg hcount]
    rfl

theorem checkRecord_sites (h : checkRecord t r = .ok issues) :
    issues.map Issue.site = (slowSite t r).toList ++ (frequentSite t r).toList := by
  obtain ⟨average, ha, h⟩ := bind_eq_ok.mp h
  obtain ⟨longest, hl, h⟩ := bind_eq_ok.mp h
  obtain ⟨frequent, hf, h⟩ := bind_eq_ok.mp h
  obtain rfl := pure_eq_ok.mp h
  rw [List.map_append, slowEvent_sites ha hl, highFrequency_sites hf]

theorem inefficientLoop_sites (h : inefficientLoop t metrics s line = .ok issues) :
    issues.map Issue.site = (loopSite metrics t s line).toList := by
  unfold inefficientLoop at h
  unfold loopSite
  by_cases hline : line ∈ s.loopLines
  · rw [if_pos (List.contains_iff_mem.mpr hline)] at h
    rw [if_pos hline]
    cases hr : firstOnLine? metrics s.path line with
    | none =>
      rw [hr] at h
      obtain rfl := Except.ok.inj h
      rfl
    | some r =>
      rw [hr] at h
      dsimp only at h
      split at h
      · next hcount =>
        obtain ⟨count, -, h⟩ := bind_eq_ok.mp h
        obtain rfl := pure_eq_ok.mp h
        simp [hcount, Issue.site]
      · next hcount =>
        obtain rfl := Except.ok.inj h
        simp [hcount]
  · rw [if_neg (by simpa using hline)] at h
    obtain rfl := Except.ok.inj h
    rw [if_neg hline]
    rfl

theorem longWait_sites (h : longWait t s line = .ok issues) :
    issues.map Issue.site = (waitSite t s line).toList := by
  unfold longWait at h
  unfold waitSite
  cases hw : s.waits.get? line with
  | none =>
    rw [hw] at h
    obtain rfl := Except.ok.inj h
    rfl
  | some w =>
    rw [hw] at h
    dsimp only at h
    rw [Option.bind_some]
    cases hticks : w.ticks? with
    | none =>
      rw [hticks] at h
      obtain rfl := Except.ok.inj h
      rfl
    | some ticks =>
      rw [hticks] at h
      dsimp only at h
      rw [Option.bind_some]
      split at h
      · next hlimit =>
        obtain ⟨amount, -, h⟩ := bind_eq_ok.mp h
        obtain ⟨shown, -, h⟩ := bind_eq_ok.mp h
        obtain rfl := pure_eq_ok.mp h
        rw [if_pos hlimit]
        rfl
      · next hlimit =>
        obtain rfl := Except.ok.inj h
        rw [if_neg hlimit]
        rfl

theorem checkLine_sites (h : checkLine t metrics s line = .ok issues) :
    issues.map Issue.site =
      (loopSite metrics t s line).toList ++ (waitSite t s line).toList := by
  obtain ⟨loop, hl, h⟩ := bind_eq_ok.mp h
  obtain ⟨wait, hw, h⟩ := bind_eq_ok.mp h
  obtain rfl := pure_eq_ok.mp h
  rw [List.map_append, inefficientLoop_sites hl, longWait_sites hw]

theorem excessiveVariables_sites (h : excessiveVariables t s = .ok issues) :
    issues.map Issue.site = (accessSite t s).toList := by
  unfold excessiveVariables at h
  unfold accessSite
  split at h
  · next hlimit =>
    obtain ⟨count, -, h⟩ := bind_eq_ok.mp h
    obtain rfl := pure_eq_ok.mp h
    rw [if_pos hlimit]
    rfl
  · next hlimit =>
    obtain rfl := Except.ok.inj h
    rw [if_neg hlimit]
    rfl

/-- The lines in order, a loop before a wait, then the script as a whole. -/
theorem checkScript_sites (h : checkScript t metrics s = .ok issues) :
    issues.map Issue.site =
      (watchedLines s).flatMap (fun line =>
        (loopSite metrics t s line).toList ++ (waitSite t s line).toList) ++
      (accessSite t s).toList := by
  obtain ⟨lines, hl, h⟩ := bind_eq_ok.mp h
  obtain ⟨whole, hw, h⟩ := bind_eq_ok.mp h
  obtain rfl := pure_eq_ok.mp h
  rw [List.map_append, excessiveVariables_sites hw,
    map_flatten_of_mapM (fun line _ ys hy => checkLine_sites hy) hl]

end Rules

section Load

/-- The scan for the largest total ends at the first record that has it. -/
theorem costliest?_split (best : Record Int) (rs : List (Record Int)) :
    ∃ before winner after, costliest? (best :: rs) = some winner ∧
      best :: rs = before ++ winner :: after ∧
      (∀ q ∈ before, q.total < winner.total) ∧ ∀ q ∈ after, q.total ≤ winner.total := by
  induction rs generalizing best with
  | nil => exact ⟨[], best, [], rfl, rfl, by simp, by simp⟩
  | cons r rs ih =>
    by_cases hlt : best.total < r.total
    · obtain ⟨before, winner, after, hw, hsplit, hb, ha⟩ := ih r
      refine ⟨best :: before, winner, after, ?_, by rw [hsplit]; rfl, ?_, ha⟩
      · rw [← hw, costliest?, List.foldl_cons, if_pos hlt]
        rfl
      · rw [List.forall_mem_cons]
        refine ⟨?_, hb⟩
        cases before with
        | nil => rwa [← (List.cons.inj hsplit).1]
        | cons q before =>
          obtain ⟨rfl, -⟩ := List.cons.inj hsplit
          exact hlt.trans (hb _ List.mem_cons_self)
    · obtain ⟨before, winner, after, hw, hsplit, hb, ha⟩ := ih best
      have hcost : costliest? (best :: r :: rs) = some winner := by
        rw [← hw, costliest?, List.foldl_cons, if_neg hlt]
        rfl
      cases before with
      | nil =>
        obtain ⟨rfl, rfl⟩ := List.cons.inj hsplit
        refine ⟨[], best, r :: rs, hcost, rfl, by simp, ?_⟩
        rw [List.forall_mem_cons]
        exact ⟨by omega, ha⟩
      | cons q before =>
        obtain ⟨rfl, hrest⟩ := List.cons.inj hsplit
        refine ⟨best :: r :: before, winner, after, hcost, ?_, ?_, ha⟩
        · rw [hrest]
          rfl
        · have hbest := hb best List.mem_cons_self
          rw [List.forall_mem_cons, List.forall_mem_cons]
          exact ⟨hbest, by omega, fun q hq => hb q (List.mem_cons_of_mem _ hq)⟩

theorem costliest?_eq (rs : List (Record Int)) : costliest? rs = firstLargest? rs := by
  cases rs with
  | nil => rfl
  | cons best rs =>
    obtain ⟨before, winner, after, hw, hsplit, hb, ha⟩ := costliest?_split best rs
    symm
    rw [hw, firstLargest?, List.find?_eq_some_iff_append]
    refine ⟨?_, before, after, hsplit, ?_⟩
    · rw [List.all_eq_true]
      intro q hq
      rw [hsplit, List.mem_append, List.mem_cons] at hq
      rcases hq with hq | rfl | hq
      · exact decide_eq_true (hb q hq).le
      · exact decide_eq_true le_rfl
      · exact decide_eq_true (ha q hq)
    · intro q hq
      have hwinner : winner ∈ best :: rs := by
        rw [hsplit]
        simp
      rw [Bool.not_eq_true', List.all_eq_false]
      exact ⟨winner, hwinner, by simpa using hb q hq⟩

variable {metrics : Metrics} {t : Thresholds} {issues : List Issue}

/-- A load strains the host unless it is at least the limit. -/
def notAtLeast (load limit : Number) : Bool := !load.ge limit

theorem checkLoad_sites {x : Number} (h : checkLoad t metrics x = .ok issues) :
    issues.map Issue.site =
      (if notAtLeast x t.lowLoad then
        (firstLargest? metrics.values).map fun r => siteOf r .loadImpact .high
      else none).toList := by
  unfold checkLoad at h
  unfold notAtLeast
  cases hge : x.ge t.lowLoad with
  | true =>
    rw [hge] at h
    obtain rfl := Except.ok.inj h
    rfl
  | false =>
    rw [hge, costliest?_eq] at h
    rw [Bool.not_false, if_pos rfl]
    cases hr : firstLargest? metrics.values with
    | none =>
      rw [hr] at h
      obtain rfl := Except.ok.inj h
      rfl
    | some r =>
      rw [hr] at h
      obtain ⟨now, -, h⟩ := bind_eq_ok.mp h
      obtain ⟨limit, -, h⟩ := bind_eq_ok.mp h
      obtain ⟨total, -, h⟩ := bind_eq_ok.mp h
      obtain rfl := pure_eq_ok.mp h
      rfl

end Load

section Evaluation

variable {metrics : Metrics} {scripts : Scripts} {t : Thresholds} {load : Value}
  {issues : List Issue}

theorem found_sites (h : found metrics scripts t load = .ok issues) :
    issues.map Issue.site =
      metrics.values.flatMap (fun r => (slowSite t r).toList ++ (frequentSite t r).toList) ++
      scripts.values.flatMap (fun s =>
        (watchedLines s).flatMap (fun line =>
          (loopSite metrics t s line).toList ++ (waitSite t s line).toList) ++
        (accessSite t s).toList) ++
      (loadSite metrics t load notAtLeast).toList := by
  obtain ⟨records, hr, h⟩ := bind_eq_ok.mp h
  obtain ⟨perScript, hs, h⟩ := bind_eq_ok.mp h
  obtain ⟨usable, hu, h⟩ := bind_eq_ok.mp h
  have husable : usable? load = usable := by
    rw [usable?, hu]
    rfl
  obtain ⟨perLoad, hload, rfl⟩ : ∃ perLoad : List Issue,
      perLoad.map Issue.site = (loadSite metrics t load notAtLeast).toList ∧
      records.flatten ++ perScript.flatten ++ perLoad = issues := by
    rw [loadSite, husable]
    cases usable with
    | none =>
      obtain ⟨perLoad, hl, h⟩ := bind_eq_ok.mp h
      obtain rfl := Except.ok.inj hl
      exact ⟨[], rfl, pure_eq_ok.mp h⟩
    | some x =>
      obtain ⟨perLoad, hl, h⟩ := bind_eq_ok.mp h
      exact ⟨perLoad, checkLoad_sites hl, pure_eq_ok.mp h⟩
  rw [List.map_append, List.map_append, hload,
    map_flatten_of_mapM (fun r _ ys hy => checkRecord_sites hy) hr,
    map_flatten_of_mapM (fun s _ ys hy => checkScript_sites hy) hs]

end Evaluation

end Detection
end ScriptProfiling
