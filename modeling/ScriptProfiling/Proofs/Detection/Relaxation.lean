import ScriptProfiling.Proofs.Detection.Completeness
import ScriptProfiling.Proofs.Number.Magnitude

/-!
# Looser limits

Every rule compares what it looks at with a limit, and what passes a limit passes a smaller one.
A slow event may change the branch of its rule on the way: one that is slow by its average may
be very slow by its longest execution under stricter limits, but it never becomes less severe.
So whatever is found under looser limits is found under stricter ones, at the same place and at
least as severe, each issue as one of its own.
-/
namespace ScriptProfiling

/-- Every limit is at least the other's, and the load may fall as low or lower. Nothing compares
with the value that is not a number, so none of the limits is that value. -/
structure Thresholds.Relaxes (loose strict : Thresholds) : Prop where
  slowMs : loose.slowMs.ge strict.slowMs = true
  verySlowMs : loose.verySlowMs.ge strict.verySlowMs = true
  frequencyCount : loose.frequencyCount.ge strict.frequencyCount = true
  frequencyTotalMs : loose.frequencyTotalMs.ge strict.frequencyTotalMs = true
  loopCount : loose.loopCount.ge strict.loopCount = true
  waitTicks : loose.waitTicks.ge strict.waitTicks = true
  variableCount : loose.variableCount.ge strict.variableCount = true
  lowLoad : strict.lowLoad.ge loose.lowLoad = true

/-- The same finding at the same place, at most as severe. -/
structure Site.Milder (s s' : Site) : Prop where
  kind : s.kind = s'.kind
  file : s.file = s'.file
  line : s.line = s'.line
  trigger : s.trigger = s'.trigger
  severity : s.severity.rank ≤ s'.severity.rank

theorem Site.Milder.refl (s : Site) : s.Milder s := ⟨rfl, rfl, rfl, rfl, le_rfl⟩

namespace Detection

section Matching

/-- Some of the images, in whatever order, are the images of some. -/
theorem exists_of_subperm_map {α β : Type} {f : α → β} {xs : List α} {ys : List β}
    (h : ys.Subperm (xs.map f)) : ∃ zs : List α, ys = zs.map f ∧ zs.Subperm xs := by
  obtain ⟨images, hperm, hsublist⟩ := h
  obtain ⟨among, hamong, rfl⟩ := List.sublist_map_iff.mp hsublist
  obtain ⟨zs, hzs, hzperm⟩ := (congrFun₂ (List.eq_map_comp_perm f) ys among).mpr hperm.symm
  exact ⟨zs, hzs, hzperm.subperm.trans hamong.subperm⟩

variable {rule rule' : Origin → Option Site} {issues issues' : List Issue}
  {R : Site → Site → Prop}

/-- When one rule names a related site wherever another names one, the issues of the other are
matched with some of its own, each with one of them. -/
theorem Accounts.matching (h : Accounts rule issues) (h' : Accounts rule' issues')
    (hrelated : ∀ o site', rule' o = some site' → ∃ site, rule o = some site ∧ R site' site) :
    ∃ kept, kept.Subperm issues ∧ List.Forall₂ (fun i j => R i.site j.site) issues' kept := by
  obtain ⟨places, -, hmem, hsites⟩ := h
  obtain ⟨places', hnodup, hmem', hsites'⟩ := h'
  have hsubset : places' ⊆ places := by
    intro o ho
    obtain ⟨site', ho'⟩ := Option.isSome_iff_exists.mp ((hmem' o).mp ho)
    obtain ⟨site, hsite, -⟩ := hrelated o site' ho'
    exact (hmem o).mpr (Option.isSome_iff_exists.mpr ⟨site, hsite⟩)
  obtain ⟨chosen, hchosen, hwithin⟩ := List.subperm_of_subset hnodup hsubset
  have hrules : List.Forall₂ (Option.Rel R) (chosen.map rule') (chosen.map rule) := by
    rw [List.forall₂_map_left_iff, List.forall₂_map_right_iff, List.forall₂_same]
    intro o ho
    obtain ⟨site', ho'⟩ := Option.isSome_iff_exists.mp ((hmem' o).mp (hchosen.mem_iff.mp ho))
    obtain ⟨site, hsite, hrel⟩ := hrelated o site' ho'
    rw [ho', hsite]
    exact .some hrel
  -- The issues follow their places, in whatever order these are.
  obtain ⟨sites, hsame, hperm⟩ :=
    List.perm_comp_forall₂ (hsites'.trans (hchosen.symm.map rule')) hrules
  have hsome : sites.Subperm (issues.map fun i => some i.site) :=
    hperm.subperm.trans ((hwithin.map rule).subperm.trans hsites.symm.subperm)
  obtain ⟨kept, rfl, hkept⟩ := exists_of_subperm_map hsome
  refine ⟨kept, hkept, ?_⟩
  rw [List.forall₂_map_left_iff, List.forall₂_map_right_iff] at hsame
  refine hsame.imp fun i j hij => ?_
  cases hij with
  | some hrel => exact hrel

end Matching

section Rules

variable {t t' : Thresholds} {r : Record Int} {metrics : Metrics} {s : ScriptInfo} {line : Int}
  {site : Site}

theorem aboveLimit_relaxed {n : Int} {limit limit' : Number} (h : limit'.ge limit = true)
    (habove : aboveLimit n limit' = true) : aboveLimit n limit = true :=
  Scaled.gt_of_gt_of_ge habove h

theorem any_relaxed {measured : Except Fault Binary64} {passes passes' : Binary64 → Bool}
    (h : ∀ x, passes' x = true → passes x = true) (hpasses : measured.toOption.any passes' = true) :
    measured.toOption.any passes = true := by
  rw [Option.any_eq_true] at hpasses ⊢
  obtain ⟨x, hx, hpassed⟩ := hpasses
  exact ⟨x, hx, h x hpassed⟩

theorem verySlow_relaxed (h : t'.Relaxes t) (hslow : verySlow t' r = true) : verySlow t r = true :=
  any_relaxed (fun _ hx => Scaled.ge_trans hx h.verySlowMs) hslow

theorem slow_relaxed (h : t'.Relaxes t) (hslow : slow t' r = true) : slow t r = true :=
  any_relaxed (fun _ hx => Scaled.ge_trans hx h.slowMs) hslow

theorem costly_relaxed (h : t'.Relaxes t) (hcostly : costly t' r = true) : costly t r = true :=
  any_relaxed (fun _ hx => Scaled.gt_of_gt_of_ge hx h.frequencyTotalMs) hcostly

theorem slowSite_relaxed (h : t'.Relaxes t) (hsite : slowSite t' r = some site) :
    ∃ site', slowSite t r = some site' ∧ site.Milder site' := by
  unfold slowSite at hsite ⊢
  split_ifs at hsite with hvery haverage
  · obtain rfl := Option.some.inj hsite
    rw [if_pos (verySlow_relaxed h hvery)]
    exact ⟨_, rfl, .refl _⟩
  · obtain rfl := Option.some.inj hsite
    -- Under the stricter limits the longest execution may decide.
    by_cases hstrict : verySlow t r = true
    · rw [if_pos hstrict]
      have hle : Severity.high.rank ≤ Severity.critical.rank := by decide
      exact ⟨_, rfl, rfl, rfl, rfl, rfl, hle⟩
    · rw [if_neg hstrict, if_pos (slow_relaxed h haverage)]
      exact ⟨_, rfl, .refl _⟩

theorem frequentSite_relaxed (h : t'.Relaxes t) (hsite : frequentSite t' r = some site) :
    ∃ site', frequentSite t r = some site' ∧ site.Milder site' := by
  unfold frequentSite at hsite ⊢
  by_cases hcount : aboveLimit r.count t'.frequencyCount = true
  · rw [if_pos hcount] at hsite
    obtain rfl := Option.some.inj hsite
    rw [if_pos (aboveLimit_relaxed h.frequencyCount hcount)]
    refine ⟨_, rfl, rfl, rfl, rfl, rfl, ?_⟩
    change (if costly t' r = true then Severity.high else .medium).rank ≤
      (if costly t r = true then Severity.high else .medium).rank
    by_cases hcostly : costly t' r = true
    · rw [if_pos hcostly, if_pos (costly_relaxed h hcostly)]
    · rw [if_neg hcostly]
      split <;> decide
  · rw [if_neg hcount] at hsite
    cases hsite

theorem loopSite_relaxed (h : t'.Relaxes t) (hsite : loopSite metrics t' s line = some site) :
    loopSite metrics t s line = some site := by
  unfold loopSite at hsite ⊢
  split_ifs at hsite ⊢ with hline
  obtain ⟨r, hr, hsite⟩ := Option.bind_eq_some_iff.mp hsite
  split_ifs at hsite with hcount
  rw [hr, Option.bind_some, if_pos (aboveLimit_relaxed h.loopCount hcount)]
  exact hsite

theorem waitSite_relaxed (h : t'.Relaxes t) (hsite : waitSite t' s line = some site) :
    waitSite t s line = some site := by
  obtain ⟨w, hw, hsite⟩ := Option.bind_eq_some_iff.mp hsite
  obtain ⟨ticks, hticks, hsite⟩ := Option.bind_eq_some_iff.mp hsite
  split_ifs at hsite with hlong
  unfold waitSite
  rw [hw, Option.bind_some, hticks, Option.bind_some, if_pos (aboveLimit_relaxed h.waitTicks hlong)]
  exact hsite

theorem accessSite_relaxed (h : t'.Relaxes t) (hsite : accessSite t' s = some site) :
    accessSite t s = some site := by
  unfold accessSite at hsite ⊢
  split_ifs at hsite with hmany
  rw [if_pos (aboveLimit_relaxed h.variableCount hmany)]
  exact hsite

theorem notAtLeast_relaxed (h : t'.Relaxes t) {load : Number}
    (hstrained : notAtLeast load t'.lowLoad = true) : notAtLeast load t.lowLoad = true := by
  unfold notAtLeast at hstrained ⊢
  rw [Bool.not_eq_true', ← Bool.not_eq_true] at hstrained ⊢
  intro hreached
  exact hstrained (Scaled.ge_trans hreached h.lowLoad)

theorem loadSite_relaxed (h : t'.Relaxes t) {load : Value}
    (hsite : loadSite metrics t' load notAtLeast = some site) :
    loadSite metrics t load notAtLeast = some site := by
  obtain ⟨x, hx, hsite⟩ := Option.bind_eq_some_iff.mp hsite
  split_ifs at hsite with hstrained
  unfold loadSite
  rw [hx, Option.bind_some, if_pos (notAtLeast_relaxed h hstrained)]
  exact hsite

end Rules

/-- Where looser limits find something, stricter ones find the same or something more severe. -/
theorem verdict_relaxed {t t' : Thresholds} (h : t'.Relaxes t) {metrics : Metrics}
    {scripts : Scripts}
    {load : Value} (o : Origin) (site : Site)
    (ho : verdict metrics scripts t' load notAtLeast o = some site) :
    ∃ site', verdict metrics scripts t load notAtLeast o = some site' ∧ site.Milder site' := by
  cases o with
  | slow i =>
    obtain ⟨r, hr, hsite⟩ := Option.bind_eq_some_iff.mp ho
    rw [verdict, hr]
    exact slowSite_relaxed h hsite
  | frequent i =>
    obtain ⟨r, hr, hsite⟩ := Option.bind_eq_some_iff.mp ho
    rw [verdict, hr]
    exact frequentSite_relaxed h hsite
  | loop i line =>
    obtain ⟨s, hs, hsite⟩ := Option.bind_eq_some_iff.mp ho
    rw [verdict, hs]
    exact ⟨site, loopSite_relaxed h hsite, .refl site⟩
  | wait i line =>
    obtain ⟨s, hs, hsite⟩ := Option.bind_eq_some_iff.mp ho
    rw [verdict, hs]
    exact ⟨site, waitSite_relaxed h hsite, .refl site⟩
  | accesses i =>
    obtain ⟨s, hs, hsite⟩ := Option.bind_eq_some_iff.mp ho
    rw [verdict, hs]
    exact ⟨site, accessSite_relaxed h hsite, .refl site⟩
  | load => exact ⟨site, loadSite_relaxed h ho, .refl site⟩

end Detection

variable {metrics : Metrics} {scripts : Scripts} {t t' : Thresholds} {load : Value}
  {issues issues' : List Issue}

/-- Looser limits neither create an issue nor escalate one: what is found under them is found
under the stricter limits as well, of the same kind, at the same place and of the same record,
and at least as severe. -/
theorem detect_relaxed (h : t'.Relaxes t) (hdetect : detect metrics scripts t load = .ok issues)
    (hdetect' : detect metrics scripts t' load = .ok issues') :
    ∃ kept, kept.Subperm issues ∧
      List.Forall₂ (fun i j => i.site.Milder j.site) issues' kept :=
  (accounts_of_detect hdetect).matching (accounts_of_detect hdetect') (Detection.verdict_relaxed h)

/-- Limits under which two hundred and fifty milliseconds are not very slow, two hundred ticks not
long and a load of twelve not low. -/
def looseThresholds : Thresholds :=
  { Thresholds.default with
    verySlowMs := wholeFloat 300
    frequencyTotalMs := wholeFloat 2000
    waitTicks := .int 1000
    lowLoad := .int 10 }

/-- Of the six issues of a busy day four are left, and the slow event is no longer critical. -/
theorem detect_relaxed_busyDay :
    let join : Site := ⟨.slowEvent, .high, "shop.sk", 1, some ⟨"shop.sk", 1, "event"⟩⟩
    looseThresholds.Relaxes .default ∧
    ∃ issues issues', detect busyRecords busyScripts .default (.int 12) = .ok issues ∧
      detect busyRecords busyScripts looseThresholds (.int 12) = .ok issues' ∧
      issues.length = 6 ∧ issues'.length = 4 ∧ (∃ i ∈ issues', i.site = join) ∧
      ∃ kept, kept.Subperm issues ∧
        List.Forall₂ (fun i j => i.site.Milder j.site) issues' kept := by
  intro join
  have hrelaxes : looseThresholds.Relaxes .default := by
    constructor <;> decide +kernel
  have hstrict : (Detection.found busyRecords busyScripts .default (.int 12)).toOption.map
      List.length = some 6 := by
    decide +kernel
  have hloose : (Detection.found busyRecords busyScripts looseThresholds (.int 12)).toOption.map
      (fun found => (found.length, found.any fun i => decide (i.site = join))) =
        some (4, true) := by
    decide +kernel
  obtain ⟨found, hfound, hlength⟩ := Option.map_eq_some_iff.mp hstrict
  obtain ⟨found', hfound', hfacts⟩ := Option.map_eq_some_iff.mp hloose
  obtain ⟨hlength', hjoin⟩ := Prod.mk.inj hfacts
  obtain ⟨i, hi, hsite⟩ := List.any_eq_true.mp hjoin
  have hdetect := map_eq_ok.mpr
    ⟨found, toOption_eq_some.mp hfound, (rfl : Detection.bySeverity found = _)⟩
  have hdetect' := map_eq_ok.mpr
    ⟨found', toOption_eq_some.mp hfound', (rfl : Detection.bySeverity found' = _)⟩
  have hperm := Detection.bySeverity_perm found
  have hperm' := Detection.bySeverity_perm found'
  exact ⟨hrelaxes, _, _, hdetect, hdetect', hperm.length_eq.trans hlength,
    hperm'.length_eq.trans hlength', ⟨i, hperm'.mem_iff.mpr hi, of_decide_eq_true hsite⟩,
    detect_relaxed hrelaxes hdetect hdetect'⟩

end ScriptProfiling
