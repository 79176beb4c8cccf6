import ScriptProfiling.Proofs.Catalog
import ScriptProfiling.Proofs.Detection.Findings

/-!
# The order of evaluation

The origins are listed in strictly ascending position, each that has a verdict is among
them, and the issues found are their verdicts in this order.
-/
namespace ScriptProfiling
namespace Detection

section Lines

theorem mem_insertLine (n m : Int) (ns : List Int) : m ∈ insertLine n ns ↔ m = n ∨ m ∈ ns := by
  induction ns with
  | nil => simp [insertLine]
  | cons k ns ih =>
    unfold insertLine
    split_ifs with hlt heq
    · simp
    · simp [heq]
    · simp only [List.mem_cons, ih]
      tauto

theorem pairwise_insertLine (n : Int) {ns : List Int} (h : ns.Pairwise (· < ·)) :
    (insertLine n ns).Pairwise (· < ·) := by
  induction ns with
  | nil => simp [insertLine]
  | cons k ns ih =>
    obtain ⟨hk, hns⟩ := List.pairwise_cons.mp h
    unfold insertLine
    split_ifs with hlt heq
    · refine List.pairwise_cons.mpr ⟨?_, h⟩
      intro m hm
      rcases List.mem_cons.mp hm with rfl | hm
      · exact hlt
      · exact hlt.trans (hk m hm)
    · exact h
    · refine List.pairwise_cons.mpr ⟨?_, ih hns⟩
      intro m hm
      rcases (mem_insertLine n m ns).mp hm with rfl | hm
      · omega
      · exact hk m hm

theorem mem_sortedLines (m : Int) (ns : List Int) : m ∈ sortedLines ns ↔ m ∈ ns := by
  induction ns with
  | nil => simp [sortedLines]
  | cons n ns ih =>
    rw [sortedLines, List.foldr_cons, mem_insertLine, List.mem_cons]
    exact or_congr_right ih

theorem pairwise_sortedLines (ns : List Int) : (sortedLines ns).Pairwise (· < ·) := by
  induction ns with
  | nil => simp [sortedLines]
  | cons n ns ih => exact pairwise_insertLine n ih

theorem mem_watchedLines (s : ScriptInfo) (line : Int) :
    line ∈ watchedLines s ↔ line ∈ s.loopLines ∨ line ∈ s.waits.keys := by
  rw [watchedLines, mem_sortedLines, List.mem_append]

end Lines

section Order

open Origin

variable (scripts : Scripts)

theorem pairwise_recordOrigins (i : Nat) : (recordOrigins i).Pairwise Before := by
  simp [recordOrigins, Before, position, Prod.Lex.toLex_lt_toLex]

theorem pairwise_scriptOrigins (i : Nat) : (scriptOrigins scripts i).Pairwise Before := by
  unfold scriptOrigins
  cases scripts.values[i]? with
  | none => simp
  | some s =>
    rw [Option.elim_some, List.pairwise_append]
    refine ⟨?_, by simp, ?_⟩
    · rw [List.pairwise_flatMap]
      constructor
      · intro line _
        simp [Before, position, Prod.Lex.toLex_lt_toLex]
      · refine (pairwise_sortedLines _).imp ?_
        intro line later hlt
        simp [Before, position, Prod.Lex.toLex_lt_toLex, hlt]
    · intro o ho p hp
      obtain rfl := List.mem_singleton.mp hp
      obtain ⟨line, -, hline⟩ := List.mem_flatMap.mp ho
      simp only [List.mem_cons, List.not_mem_nil, or_false] at hline
      rcases hline with rfl | rfl <;>
        simp [Before, position, Prod.Lex.toLex_lt_toLex, WithTop.coe_lt_top]

theorem stage_recordOrigins {o : Origin} {i : Nat} (h : o ∈ recordOrigins i) :
    (ofLex o.position).1 = 0 ∧ (ofLex (ofLex o.position).2).1 = i := by
  simp only [recordOrigins, List.mem_cons, List.not_mem_nil, or_false] at h
  rcases h with rfl | rfl <;> simp [position]

theorem stage_scriptOrigins {o : Origin} {i : Nat} (h : o ∈ scriptOrigins scripts i) :
    (ofLex o.position).1 = 1 ∧ (ofLex (ofLex o.position).2).1 = i := by
  unfold scriptOrigins at h
  cases hs : scripts.values[i]? with
  | none =>
    simp only [hs, Option.elim_none, List.nil_append, List.mem_singleton] at h
    simp [h, position]
  | some s =>
    simp only [hs, Option.elim_some, List.mem_append, List.mem_flatMap, List.mem_cons,
      List.not_mem_nil, or_false] at h
    rcases h with ⟨line, -, rfl | rfl⟩ | rfl <;> simp [position]

variable (metrics : Metrics)

theorem before_of_stage {o p : Origin} (h : (ofLex o.position).1 < (ofLex p.position).1) :
    o.Before p :=
  Prod.Lex.lt_iff.mpr (Or.inl h)

theorem before_of_place {o p : Origin} (hstage : (ofLex o.position).1 = (ofLex p.position).1)
    (h : (ofLex (ofLex o.position).2).1 < (ofLex (ofLex p.position).2).1) : o.Before p :=
  Prod.Lex.lt_iff.mpr (Or.inr ⟨hstage, Prod.Lex.lt_iff.mpr (Or.inl h)⟩)

theorem pairwise_origins : (origins metrics scripts).Pairwise Before := by
  unfold origins
  rw [List.pairwise_append, List.pairwise_append]
  refine ⟨⟨?_, ?_, ?_⟩, by simp, ?_⟩
  · rw [List.pairwise_flatMap]
    refine ⟨fun i _ => pairwise_recordOrigins i, List.pairwise_lt_range.imp ?_⟩
    intro i j hij o ho p hp
    obtain ⟨hstage, hplace⟩ := stage_recordOrigins ho
    obtain ⟨hstage', hplace'⟩ := stage_recordOrigins hp
    exact before_of_place (hstage.trans hstage'.symm) (by omega)
  · rw [List.pairwise_flatMap]
    refine ⟨fun i _ => pairwise_scriptOrigins scripts i, List.pairwise_lt_range.imp ?_⟩
    intro i j hij o ho p hp
    obtain ⟨hstage, hplace⟩ := stage_scriptOrigins scripts ho
    obtain ⟨hstage', hplace'⟩ := stage_scriptOrigins scripts hp
    exact before_of_place (hstage.trans hstage'.symm) (by omega)
  · intro o ho p hp
    obtain ⟨i, -, ho⟩ := List.mem_flatMap.mp ho
    obtain ⟨j, -, hp⟩ := List.mem_flatMap.mp hp
    have hstage := (stage_recordOrigins ho).1
    have hstage' := (stage_scriptOrigins scripts hp).1
    exact before_of_stage (by omega)
  · intro o ho p hp
    obtain rfl := List.mem_singleton.mp hp
    have hload : (ofLex Origin.load.position).1 = 2 := rfl
    apply before_of_stage
    rcases List.mem_append.mp ho with ho | ho
    · obtain ⟨i, -, ho⟩ := List.mem_flatMap.mp ho
      have hstage := (stage_recordOrigins ho).1
      omega
    · obtain ⟨i, -, ho⟩ := List.mem_flatMap.mp ho
      have hstage := (stage_scriptOrigins scripts ho).1
      omega

end Order

section Verdicts

variable {metrics : Metrics} {scripts : Scripts} {t : Thresholds} {load : Value}
  {strained : Number → Number → Bool}

theorem lt_length_of_verdict {α β : Type} {xs : List α} {i : Nat} {f : α → Option β}
    (h : (xs[i]?.bind f).isSome) : i < xs.length := by
  by_contra hi
  simp [List.getElem?_eq_none (not_lt.mp hi)] at h

theorem mem_of_loopSite {s : ScriptInfo} {line : Int}
    (h : (loopSite metrics t s line).isSome) : line ∈ s.loopLines := by
  by_contra hline
  simp [loopSite, hline] at h

theorem mem_of_waitSite {s : ScriptInfo} {line : Int}
    (h : (waitSite t s line).isSome) : line ∈ s.waits.keys := by
  unfold waitSite at h
  cases hw : s.waits.get? line with
  | none => simp [hw] at h
  | some w => exact Catalog.mem_keys_of_get? hw

theorem mem_scriptOrigins_of_line {s : ScriptInfo} {i : Nat} {line : Int}
    (hs : scripts.values[i]? = some s) (hline : line ∈ s.loopLines ∨ line ∈ s.waits.keys) :
    Origin.loop i line ∈ scriptOrigins scripts i ∧
      Origin.wait i line ∈ scriptOrigins scripts i := by
  have hwatched := (mem_watchedLines s line).mpr hline
  unfold scriptOrigins
  rw [hs, Option.elim_some]
  constructor <;>
    exact List.mem_append_left _ (List.mem_flatMap.mpr ⟨line, hwatched, by simp⟩)

theorem mem_origins_of_record {o : Origin} {i : Nat} (hi : i < metrics.values.length)
    (ho : o ∈ recordOrigins i) : o ∈ origins metrics scripts := by
  unfold origins
  rw [List.append_assoc]
  exact List.mem_append_left _ (List.mem_flatMap.mpr ⟨i, List.mem_range.mpr hi, ho⟩)

theorem mem_origins_of_script {o : Origin} {i : Nat} (hi : i < scripts.values.length)
    (ho : o ∈ scriptOrigins scripts i) : o ∈ origins metrics scripts := by
  unfold origins
  rw [List.append_assoc]
  refine List.mem_append_right _ (List.mem_append_left _ ?_)
  exact List.mem_flatMap.mpr ⟨i, List.mem_range.mpr hi, ho⟩

/-- What is never looked at would not be an issue either. -/
theorem mem_origins_of_verdict {o : Origin}
    (h : (verdict metrics scripts t load strained o).isSome) : o ∈ origins metrics scripts := by
  cases o with
  | slow i =>
    exact mem_origins_of_record (lt_length_of_verdict h) (by simp [recordOrigins])
  | frequent i =>
    exact mem_origins_of_record (lt_length_of_verdict h) (by simp [recordOrigins])
  | loop i line =>
    apply mem_origins_of_script (lt_length_of_verdict h)
    cases hs : scripts.values[i]? with
    | none => simp [verdict, hs] at h
    | some s =>
      have hline : line ∈ s.loopLines := mem_of_loopSite (by simpa [verdict, hs] using h)
      exact (mem_scriptOrigins_of_line hs (Or.inl hline)).1
  | wait i line =>
    apply mem_origins_of_script (lt_length_of_verdict h)
    cases hs : scripts.values[i]? with
    | none => simp [verdict, hs] at h
    | some s =>
      have hline : line ∈ s.waits.keys := mem_of_waitSite (by simpa [verdict, hs] using h)
      exact (mem_scriptOrigins_of_line hs (Or.inr hline)).2
  | accesses i =>
    exact mem_origins_of_script (lt_length_of_verdict h) (by simp [scriptOrigins])
  | load => simp [origins]

/-- A walk along the places of a list is a walk along the list. -/
theorem flatMap_range_length {α β : Type} (xs : List α) (f : Option α → List β) :
    (List.range xs.length).flatMap (fun i => f xs[i]?) = xs.flatMap fun x => f (some x) := by
  induction xs with
  | nil => rfl
  | cons x xs ih =>
    rw [List.length_cons, List.range_succ_eq_map, List.flatMap_cons, List.flatMap_map,
      List.flatMap_cons, ← ih]
    rfl

theorem filterMap_single {α β : Type} (f : α → Option β) (a : α) :
    [a].filterMap f = (f a).toList := by
  rw [List.filterMap_cons, List.filterMap_nil]
  cases f a <;> rfl

theorem filterMap_pair {α β : Type} (f : α → Option β) (a b : α) :
    [a, b].filterMap f = (f a).toList ++ (f b).toList := by
  rw [← filterMap_single f a, ← filterMap_single f b, ← List.filterMap_append]
  rfl

theorem filterMap_recordOrigins (i : Nat) :
    (recordOrigins i).filterMap (verdict metrics scripts t load strained) =
      (metrics.values[i]?.bind (slowSite t)).toList ++
        (metrics.values[i]?.bind (frequentSite t)).toList :=
  filterMap_pair ..

theorem filterMap_scriptOrigins (i : Nat) :
    (scriptOrigins scripts i).filterMap (verdict metrics scripts t load strained) =
      (scripts.values[i]?.elim [] fun s =>
        (watchedLines s).flatMap fun line =>
          (loopSite metrics t s line).toList ++ (waitSite t s line).toList) ++
      (scripts.values[i]?.bind (accessSite t)).toList := by
  unfold scriptOrigins
  rw [List.filterMap_append, filterMap_single]
  cases hs : scripts.values[i]? with
  | none => simp [verdict, hs]
  | some s => simp [verdict, hs, List.filterMap_flatMap, filterMap_pair]

variable {issues : List Issue}

/-- The issues found are the verdicts of the origins, in the order of evaluation. -/
theorem found_eq_verdicts (h : found metrics scripts t load = .ok issues) :
    issues.map Issue.site =
      (origins metrics scripts).filterMap (verdict metrics scripts t load notAtLeast) := by
  unfold origins
  rw [List.filterMap_append, List.filterMap_append, List.filterMap_flatMap,
    List.filterMap_flatMap, filterMap_single, found_sites h]
  simp only [filterMap_recordOrigins, filterMap_scriptOrigins]
  rw [flatMap_range_length metrics.values fun r =>
      (r.bind (slowSite t)).toList ++ (r.bind (frequentSite t)).toList,
    flatMap_range_length scripts.values fun s =>
      (s.elim [] fun s => (watchedLines s).flatMap fun line =>
        (loopSite metrics t s line).toList ++ (waitSite t s line).toList) ++
      (s.bind (accessSite t)).toList]
  rfl

end Verdicts

section Listing

/-- The issues are those of the places that a rule judges, one for each, and in the order
in which the places are looked at. -/
def InOrder (rule : Origin → Option Site) (issues : List Issue) : Prop :=
  ∃ places : List Origin, places.Pairwise Origin.Before ∧
    (∀ o, o ∈ places ↔ (rule o).isSome) ∧
    issues.map (fun i => some i.site) = places.map rule

theorem map_filter_isSome {α β : Type} (f : α → Option β) (xs : List α) :
    (xs.filter fun x => (f x).isSome).map f = (xs.filterMap f).map some := by
  induction xs with
  | nil => rfl
  | cons x xs ih =>
    cases hx : f x with
    | none => rw [List.filter_cons_of_neg (by simp [hx]), List.filterMap_cons_none hx, ih]
    | some y =>
      rw [List.filter_cons_of_pos (by simp [hx]), List.filterMap_cons_some hx, List.map_cons,
        List.map_cons, hx, ih]

variable {metrics : Metrics} {scripts : Scripts} {t : Thresholds} {load : Value}
  {evaluation : List Issue}

theorem found_inOrder (h : found metrics scripts t load = .ok evaluation) :
    InOrder (verdict metrics scripts t load notAtLeast) evaluation := by
  let rule := verdict metrics scripts t load notAtLeast
  refine ⟨(origins metrics scripts).filter fun o => (rule o).isSome, ?_, ?_, ?_⟩
  · exact (pairwise_origins scripts metrics).filter _
  · intro o
    rw [List.mem_filter]
    exact ⟨And.right, fun ho => ⟨mem_origins_of_verdict ho, ho⟩⟩
  · rw [map_filter_isSome, ← found_eq_verdicts h, List.map_map]
    rfl

end Listing

end Detection
end ScriptProfiling
