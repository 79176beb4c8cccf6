import ScriptProfiling.Proofs.Detection.Ordering
import ScriptProfiling.Proofs.Detection.Totality
import ScriptProfiling.Proofs.Trace.Replay

/-!
# Detection and the order of arrival

The order in which the entries of a trace arrive shows in the order of the records and in
their names, and nowhere else. No rule looks at a name. Of the order, the rule on loops sees
which record is the first on its line, and the rule on the load which is the first with the
largest total. Where lines and the largest total are not shared, the same issues are found
in whatever order the entries arrive.
-/
namespace ScriptProfiling

/-- A record apart from its name. -/
def Record.unnamed (r : Record Int) : Record Int := { r with name := "" }

namespace Observation

variable {os os' : List Observation}

theorem min?_perm {xs ys : List Int} (h : xs.Perm ys) : xs.min? = ys.min? := by
  cases hx : xs.min? with
  | none =>
    obtain rfl := List.min?_eq_none_iff.mp hx
    obtain rfl := h.nil_eq
    rfl
  | some least =>
    obtain ⟨hmem, hleast⟩ := List.min?_eq_some_iff.mp hx
    exact (List.min?_eq_some_iff.mpr
      ⟨h.mem_iff.mp hmem, fun y hy => hleast y (h.mem_iff.mpr hy)⟩).symm

theorem unnamed_summary_perm (h : os.Perm os') (key : MetricKey) :
    (summary key os).unnamed = (summary key os').unnamed := by
  have hdurations : (durations os).Perm (durations os') := h.filterMap _
  have hpositives : (positives os).Perm (positives os') := hdurations.filter _
  simp only [Record.unnamed, summary, h.length_eq, hdurations.sum_eq, hpositives.foldl_op_eq,
    min?_perm hpositives]

theorem unnamed_digest_perm (h : os.Perm os') (hkeys : (keys os).Nodup)
    (hkeys' : (keys os').Nodup) :
    ((digest os).map fun e => e.2.unnamed).Perm ((digest os').map fun e => e.2.unnamed) := by
  have hsame : (keys os).Perm (keys os') := by
    refine (List.perm_ext_iff_of_nodup hkeys hkeys').mpr fun key => ?_
    rw [mem_keys, mem_keys]
    exact exists_congr fun o => and_congr_left' h.mem_iff
  have hsummary : ∀ key, (summary key (ofKey key os)).unnamed =
      (summary key (ofKey key os')).unnamed :=
    fun key => unnamed_summary_perm (h.filter _) key
  rw [digest, digest, List.map_map, List.map_map]
  simp only [Function.comp_def, hsummary]
  exact hsame.map _

end Observation

namespace Detection

section Search

variable {α : Type} {xs ys : List α}

/-- A search that can find one item only does not depend on the order. -/
theorem find?_perm (h : xs.Perm ys) {p : α → Bool}
    (hsingle : ∀ x ∈ xs, ∀ y ∈ xs, p x = true → p y = true → x = y) : xs.find? p = ys.find? p := by
  cases hx : xs.find? p with
  | none =>
    symm
    rw [List.find?_eq_none] at hx ⊢
    exact fun y hy => hx y (h.mem_iff.mpr hy)
  | some x =>
    have hmem : x ∈ xs := List.mem_of_find?_eq_some hx
    have hp : p x = true := List.find?_some hx
    have hfound : (ys.find? p).isSome := List.find?_isSome.mpr ⟨x, h.mem_iff.mp hmem, hp⟩
    obtain ⟨y, hy⟩ := Option.isSome_iff_exists.mp hfound
    have hymem : y ∈ xs := h.mem_iff.mpr (List.mem_of_find?_eq_some hy)
    rw [hy, hsingle x hmem y hymem hp (List.find?_some hy)]

end Search

/-- The same records but for their order and their names, with the same record found on each
line and the same one blamed for a load. -/
structure Alike (m m' : Metrics) : Prop where
  records : (m.values.map Record.unnamed).Perm (m'.values.map Record.unnamed)
  onLine : ∀ file line, (firstOnLine? m file line).map Record.unnamed =
    (firstOnLine? m' file line).map Record.unnamed
  costliest : (firstLargest? m.values).map Record.unnamed =
    (firstLargest? m'.values).map Record.unnamed

namespace Alike

variable {m m' : Metrics} {scripts : Scripts} {t : Thresholds} {load : Value}

theorem symm (h : Alike m m') : Alike m' m :=
  ⟨h.records.symm, fun file line => (h.onLine file line).symm, h.costliest.symm⟩

/-- Where no two records share a line, and only one has the largest total, the order does not
matter. -/
theorem of_perm (h : (m.values.map Record.unnamed).Perm (m'.values.map Record.unnamed))
    (hlines : ∀ r ∈ m.values, ∀ q ∈ m.values, r.key.file = q.key.file → r.key.line = q.key.line →
      r = q)
    (hlargest : ∀ r ∈ m.values, ∀ q ∈ m.values, (∀ x ∈ m.values, x.total ≤ r.total) →
      (∀ x ∈ m.values, x.total ≤ q.total) → r = q) : Alike m m' := by
  refine ⟨h, fun file line => ?_, ?_⟩
  · have hsearch : ∀ n : Metrics, (firstOnLine? n file line).map Record.unnamed =
        (n.values.map Record.unnamed).find? fun r => r.key.file == file && r.key.line == line := by
      intro n
      rw [List.find?_map]
      rfl
    rw [hsearch, hsearch]
    refine find?_perm h ?_
    intro x hx y hy hpx hpy
    obtain ⟨r, hr, rfl⟩ := List.mem_map.mp hx
    obtain ⟨q, hq, rfl⟩ := List.mem_map.mp hy
    rw [Bool.and_eq_true, beq_iff_eq, beq_iff_eq] at hpx hpy
    rw [hlines r hr q hq (hpx.1.trans hpy.1.symm) (hpx.2.trans hpy.2.symm)]
  · have hsearch : ∀ n : Metrics, (firstLargest? n.values).map Record.unnamed =
        (n.values.map Record.unnamed).find? fun r =>
          (n.values.map Record.unnamed).all fun q => q.total ≤ r.total := by
      intro n
      rw [List.find?_map]
      simp only [List.all_map]
      rfl
    have hall : (fun r : Record Int =>
          (m'.values.map Record.unnamed).all fun q => q.total ≤ r.total) =
        fun r => (m.values.map Record.unnamed).all fun q => q.total ≤ r.total := by
      funext r
      exact h.symm.all_eq
    rw [hsearch, hsearch, hall]
    refine find?_perm h ?_
    intro x hx y hy hpx hpy
    obtain ⟨r, hr, rfl⟩ := List.mem_map.mp hx
    obtain ⟨q, hq, rfl⟩ := List.mem_map.mp hy
    rw [List.all_map, List.all_eq_true] at hpx hpy
    rw [hlargest r hr q hq (fun z hz => of_decide_eq_true (hpx z hz))
      (fun z hz => of_decide_eq_true (hpy z hz))]

/-- A script is judged by counts of records and keys, whatever their names are. -/
theorem checkScript_eq (h : Alike m m') (s : ScriptInfo) :
    checkScript t m s = checkScript t m' s := by
  have hloop : ∀ line, inefficientLoop t m s line = inefficientLoop t m' s line := by
    intro line
    have hline := h.onLine s.path line
    unfold inefficientLoop
    split_ifs
    · cases hr : firstOnLine? m s.path line with
      | none =>
        rw [hr, Option.map_none, eq_comm, Option.map_eq_none_iff] at hline
        rw [hline]
      | some r =>
        rw [hr, Option.map_some, eq_comm, Option.map_eq_some_iff] at hline
        obtain ⟨r', hr', hsame⟩ := hline
        have hcount : r'.count = r.count := (congrArg Record.count hsame :)
        have hkey : r'.key = r.key := (congrArg Record.key hsame :)
        rw [hr']
        dsimp only
        rw [hcount, hkey]
    · rfl
  unfold checkScript
  have hline : checkLine t m s = checkLine t m' s := by
    funext line
    rw [checkLine, checkLine, hloop]
  rw [hline]

theorem checkLoad_eq (h : Alike m m') (x : Number) : checkLoad t m x = checkLoad t m' x := by
  have hblamed := h.costliest
  unfold checkLoad
  rw [costliest?_eq, costliest?_eq]
  cases hr : firstLargest? m.values with
  | none =>
    rw [hr, Option.map_none, eq_comm, Option.map_eq_none_iff] at hblamed
    rw [hblamed]
  | some r =>
    rw [hr, Option.map_some, eq_comm, Option.map_eq_some_iff] at hblamed
    obtain ⟨r', hr', hsame⟩ := hblamed
    have htotal : r'.totalMs = r.totalMs := (congrArg Record.totalMs hsame :)
    have hissue : ∀ description suggestion,
        ofRecord r' .loadImpact .high description suggestion =
          ofRecord r .loadImpact .high description suggestion := by
      intro description suggestion
      have hkey : r'.key = r.key := (congrArg Record.key hsame :)
      rw [ofRecord, ofRecord, hkey]
    rw [hr']
    dsimp only
    simp only [htotal, hissue]

theorem loadIssues_eq (h : Alike m m') (load : Value) :
    loadIssues t m load = loadIssues t m' load := by
  have hload : checkLoad t m = checkLoad t m' := funext h.checkLoad_eq
  rw [loadIssues, loadIssues, hload]

theorem mapM_unnamed (t : Thresholds) (rs : List (Record Int)) :
    rs.mapM (checkRecord t) = (rs.map Record.unnamed).mapM (checkRecord t) := by
  rw [List.mapM_map]
  rfl

theorem found_perm (h : Alike m m') {issues : List Issue}
    (hfound : found m scripts t load = .ok issues) :
    ∃ issues', found m' scripts t load = .ok issues' ∧ issues.Perm issues' := by
  rw [found_eq] at hfound
  obtain ⟨records, hrecords, hrest⟩ := bind_eq_ok.mp hfound
  rw [mapM_unnamed] at hrecords
  obtain ⟨records', hrecords', hperm⟩ := mapM_perm h.records hrecords
  rw [← mapM_unnamed] at hrecords'
  have hscripts : checkScript t m = checkScript t m' := funext h.checkScript_eq
  rw [hscripts, h.loadIssues_eq] at hrest
  obtain ⟨perScript, hs, hrest⟩ := bind_eq_ok.mp hrest
  obtain ⟨perLoad, hl, hrest⟩ := bind_eq_ok.mp hrest
  obtain rfl := pure_eq_ok.mp hrest
  refine ⟨records'.flatten ++ perScript.flatten ++ perLoad, ?_, ?_⟩
  · rw [found_eq]
    exact bind_eq_ok.mpr ⟨records', hrecords', bind_eq_ok.mpr ⟨perScript, hs,
      bind_eq_ok.mpr ⟨perLoad, hl, rfl⟩⟩⟩
  · exact (hperm.flatten.append_right _).append_right _

theorem isOk_found_eq (h : Alike m m') :
    (found m scripts t load).isOk = (found m' scripts t load).isOk := by
  have hsucceeds : ∀ {n n' : Metrics}, Alike n n' → (found n scripts t load).isOk = true →
      (found n' scripts t load).isOk = true := by
    intro n n' halike hok
    obtain ⟨issues, hissues⟩ := isOk_iff.mp hok
    obtain ⟨issues', hissues', -⟩ := halike.found_perm hissues
    exact isOk_iff.mpr ⟨issues', hissues'⟩
  exact Bool.eq_iff_iff.mpr ⟨hsucceeds h, hsucceeds h.symm⟩

end Alike
end Detection

namespace Aggregator

variable {a a' : Aggregator} {entries entries' : List TraceEntry}

theorem values_replay (h : a.active = true) (hempty : a.records.isEmpty = true)
    (entries : List TraceEntry) :
    (a.replay entries).snapshot.values = (Observation.digest entries).map Prod.snd := by
  rw [snapshot, Catalog.values, entries_replay h hempty]

theorem exists_entry_of_mem_replay (h : a.active = true) (hempty : a.records.isEmpty = true)
    {r : Record Int} (hr : r ∈ (a.replay entries).snapshot.values) :
    ∃ e ∈ entries, r = Observation.summary e.key (Observation.ofKey e.key entries) := by
  rw [values_replay h hempty] at hr
  obtain ⟨row, hrow, rfl⟩ := List.mem_map.mp hr
  obtain ⟨key, hkey, rfl⟩ := List.mem_map.mp hrow
  obtain ⟨e, he, rfl⟩ := (Observation.mem_keys key entries).mp hkey
  exact ⟨e, he, rfl⟩

/-- Entries in another order leave alike records, if no two keys share a line and only one
record has the largest total. -/
theorem alike_replay (hperm : entries.Perm entries')
    (ha : a.active = true) (hempty : a.records.isEmpty = true)
    (ha' : a'.active = true) (hempty' : a'.records.isEmpty = true)
    (hlines : ∀ e ∈ entries, ∀ f ∈ entries, e.key.file = f.key.file → e.key.line = f.key.line →
      e.key = f.key)
    (hlargest : ∀ r ∈ (a.replay entries).snapshot.values,
      ∀ q ∈ (a.replay entries).snapshot.values,
      (∀ x ∈ (a.replay entries).snapshot.values, x.total ≤ r.total) →
      (∀ x ∈ (a.replay entries).snapshot.values, x.total ≤ q.total) → r = q) :
    Detection.Alike (a.replay entries).snapshot (a'.replay entries').snapshot := by
  refine .of_perm ?_ ?_ hlargest
  · rw [values_replay ha hempty, values_replay ha' hempty', List.map_map, List.map_map]
    exact Observation.unnamed_digest_perm hperm (nodup_keys_replay ha hempty entries)
      (nodup_keys_replay ha' hempty' entries')
  · intro r hr q hq hfile hline
    obtain ⟨e, he, rfl⟩ := exists_entry_of_mem_replay ha hempty hr
    obtain ⟨f, hf, rfl⟩ := exists_entry_of_mem_replay ha hempty hq
    have hkey : e.key = f.key := hlines e he f hf hfile hline
    rw [hkey]

end Aggregator

/-- What is found does not depend on the order in which the entries of a trace arrive, as
long as no two keys share a line and only one record has the largest total: detection
succeeds for both orders or for neither, and then finds the same issues. -/
theorem detect_arrival {entries entries' : List TraceEntry} (hperm : entries.Perm entries')
    {a a' : Aggregator} (ha : a.active = true) (hempty : a.records.isEmpty = true)
    (ha' : a'.active = true) (hempty' : a'.records.isEmpty = true)
    (hlines : ∀ e ∈ entries, ∀ f ∈ entries, e.key.file = f.key.file → e.key.line = f.key.line →
      e.key = f.key)
    (hlargest : ∀ r ∈ (a.replay entries).snapshot.values,
      ∀ q ∈ (a.replay entries).snapshot.values,
      (∀ x ∈ (a.replay entries).snapshot.values, x.total ≤ r.total) →
      (∀ x ∈ (a.replay entries).snapshot.values, x.total ≤ q.total) → r = q)
    (scripts : Scripts) (t : Thresholds) (load : Value) :
    (detect (a.replay entries).snapshot scripts t load).isOk =
      (detect (a'.replay entries').snapshot scripts t load).isOk ∧
    ∀ issues issues', detect (a.replay entries).snapshot scripts t load = .ok issues →
      detect (a'.replay entries').snapshot scripts t load = .ok issues' → issues.Perm issues' := by
  have halike := Aggregator.alike_replay hperm ha hempty ha' hempty' hlines hlargest
  refine ⟨?_, ?_⟩
  · rw [detect, detect, isOk_map, isOk_map, halike.isOk_found_eq]
  · intro issues issues' hissues hissues'
    obtain ⟨evaluation, hfound, rfl⟩ := detect_eq_ok hissues
    obtain ⟨evaluation', hfound', rfl⟩ := detect_eq_ok hissues'
    obtain ⟨other, hother, hsame⟩ := halike.found_perm hfound
    obtain rfl := Except.ok.inj (hfound'.symm.trans hother)
    exact ((Detection.bySeverity_perm evaluation).trans hsame).trans
      (Detection.bySeverity_perm _).symm

/-- A slow event, and a loop that runs twice under two names. -/
def arrivals : List TraceEntry :=
  [⟨⟨"shop.sk", 1, "event"⟩, "on join", some 300000000⟩,
    ⟨⟨"shop.sk", 4, "loop"⟩, "loop players", some 1000000⟩,
    ⟨⟨"shop.sk", 4, "loop"⟩, "each player", none⟩]

/-- Limits that two executions exceed. -/
def strictThresholds : Thresholds :=
  { Thresholds.default with frequencyCount := .int 1, loopCount := .int 1 }

/-- The last entry comes first: the loop gets another name and the first place, and the same
six issues are found. -/
theorem detect_arrival_reversed :
    let a := (Aggregator.fresh.start (.zero false)).value.2
    a.active = true ∧ a.records.isEmpty = true ∧ arrivals.reverse.Perm arrivals ∧
    (a.replay arrivals.reverse).snapshot.keys ≠ (a.replay arrivals).snapshot.keys ∧
    ∃ issues issues', issues.length = 6 ∧ issues'.Perm issues ∧
      detect (a.replay arrivals).snapshot busyScripts strictThresholds (.int 12) = .ok issues ∧
      detect (a.replay arrivals.reverse).snapshot busyScripts strictThresholds (.int 12) =
        .ok issues' := by
  intro a
  have hactive : a.active = true := by decide
  have hempty : a.records.isEmpty = true := by decide
  have hperm : arrivals.reverse.Perm arrivals := List.reverse_perm arrivals
  have hcount : (Detection.found (a.replay arrivals).snapshot busyScripts strictThresholds
      (.int 12)).toOption.map List.length = some 6 := by
    decide +kernel
  obtain ⟨found, hfound, hlength⟩ := Option.map_eq_some_iff.mp hcount
  have hdetect : detect (a.replay arrivals).snapshot busyScripts strictThresholds (.int 12) =
      .ok (Detection.bySeverity found) :=
    map_eq_ok.mpr ⟨found, toOption_eq_some.mp hfound, rfl⟩
  obtain ⟨hboth, hissues⟩ := detect_arrival hperm hactive hempty hactive hempty (by decide +kernel)
    (by decide +kernel) busyScripts strictThresholds (.int 12)
  have hok : (detect (a.replay arrivals.reverse).snapshot busyScripts strictThresholds
      (.int 12)).isOk = true := by
    rw [hboth, hdetect]
    rfl
  obtain ⟨issues', hreversed⟩ := isOk_iff.mp hok
  refine ⟨hactive, hempty, hperm, by decide +kernel, _, issues', ?_, hissues _ _ hreversed hdetect,
    hdetect, hreversed⟩
  rw [(Detection.bySeverity_perm found).length_eq, hlength]

end ScriptProfiling
