import ScriptProfiling.Proofs.Catalog
import ScriptProfiling.Proofs.Report.Ranking

/-!
# The breakdown by script

The breakdown divides the places of the records by file. Files are told apart by their whole path,
so two files with one short name have a block each, and the order of the blocks is that of the
first places. Within a block the slowest records of the file are ranked as in the list of the
slowest operations: the ranking is made among the records of the file alone, and since these stand
in the order of their places, it is one of places in the whole report.
-/
namespace ScriptProfiling
namespace Report

/-- The places of the records of a file, in their order. -/
def placesOf (records : List (Record Int)) (file : String) : List Nat :=
  (List.range records.length).filter fun i => records[i]?.any (·.key.file == file)

/-- One file has a record before all records of another. -/
def Appears (records : List (Record Int)) (file other : String) : Prop :=
  ∃ i ∈ placesOf records file, ∀ j ∈ placesOf records other, i < j

/-- A block of the breakdown: a file, its script if that is known, and the places of the records
that it lists, with their averages. -/
structure FileBlock where
  file : String
  script : Option ScriptInfo
  places : List Nat
  listed : List Rated

namespace FileBlock

/-- A block is written with the counts of its script, if that is known, and with the line, the
average and the count of each record that it lists. -/
def lines (b : FileBlock) : List String := fileTexts b.file b.script b.listed

/-- A block lists the records at its places, each with its own average. -/
structure Tells (records : List (Record Int)) (b : FileBlock) : Prop where
  records : (b.listed.map fun r => some r.record) = b.places.map (records[·]?)
  averages : ∀ r ∈ b.listed, r.record.averageMs = .ok r.average

end FileBlock

/-- Blocks divide the records by file. -/
structure Divides (input : ReportInput) (blocks : List FileBlock) : Prop where
  once : (blocks.map FileBlock.file).Nodup
  files : ∀ file, file ∈ blocks.map FileBlock.file ↔ ∃ r ∈ input.metrics.values, r.key.file = file
  groups : (blocks.flatMap fun b => placesOf input.metrics.values b.file).Perm
    (List.range input.metrics.values.length)
  order : blocks.Pairwise fun a b => Appears input.metrics.values a.file b.file
  slowest : ∀ b ∈ blocks,
    Slowest input.metrics.values (placesOf input.metrics.values b.file) 5 b.places
  tells : ∀ b ∈ blocks, b.Tells input.metrics.values
  scripts : ∀ b ∈ blocks, ∀ s, b.script = some s ↔ (b.file, s) ∈ input.scripts.entries

section Groups

variable {records : List (Record Int)} {file : String} {i : Nat}

theorem mem_placesOf :
    i ∈ placesOf records file ↔ ∃ r, records[i]? = some r ∧ r.key.file = file := by
  rw [placesOf, List.mem_filter, List.mem_range]
  constructor
  · rintro ⟨-, hany⟩
    obtain ⟨r, hr, hfile⟩ := (Option.any_eq_true _ _).mp hany
    exact ⟨r, hr, eq_of_beq hfile⟩
  · rintro ⟨r, hr, hfile⟩
    refine ⟨(List.getElem?_eq_some_iff.mp hr).1, ?_⟩
    simp [hr, hfile]

theorem pairwise_placesOf (records : List (Record Int)) (file : String) :
    (placesOf records file).Pairwise (· < ·) :=
  List.pairwise_lt_range.filter _

theorem filter_file (records : List (Record Int)) (file : String) :
    (records.filter (·.key.file == file)).map some = (placesOf records file).map (records[·]?) := by
  have hall : records.map some = (List.range records.length).map (records[·]?) := by
    apply List.ext_getElem?
    intro i
    by_cases hi : i < records.length
    · simp [hi]
    · simp [hi]
  calc (records.filter (·.key.file == file)).map some
      = (records.map some).filter (fun r => r.any (·.key.file == file)) := by
        rw [List.filter_map]
        rfl
    _ = ((List.range records.length).map (records[·]?)).filter
        (fun r => r.any (·.key.file == file)) := by
        rw [hall]
    _ = (placesOf records file).map (records[·]?) := by
        rw [List.filter_map]
        rfl

theorem placesOf_concat (r : Record Int) :
    i ∈ placesOf (records ++ [r]) file ↔
      i ∈ placesOf records file ∨ i = records.length ∧ r.key.file = file := by
  simp only [mem_placesOf]
  rcases lt_trichotomy i records.length with hi | rfl | hi
  · simp [List.getElem?_append_left hi, hi.ne]
  · simp
  · have hout : (records ++ [r])[i]? = none := by
      rw [List.getElem?_eq_none_iff, List.length_append, List.length_singleton]
      exact hi
    simp [hout, hi.ne', List.getElem?_eq_none hi.le]

theorem lt_of_mem_placesOf (h : i ∈ placesOf records file) : i < records.length := by
  obtain ⟨r, hr, -⟩ := mem_placesOf.mp h
  exact (List.getElem?_eq_some_iff.mp hr).1

theorem nodup_filesOf (records : List (Record Int)) : (filesOf records).Nodup :=
  (records.foldl _ Catalog.empty).nodup

theorem pairwise_filesOf (records : List (Record Int)) :
    (filesOf records).Pairwise (Appears records) := by
  induction records using List.reverseRecOn with
  | nil => exact List.Pairwise.nil
  | append_singleton records r ih =>
    -- The last record is behind the first records of all the files there are.
    have hlater : (filesOf records).Pairwise (Appears (records ++ [r])) := by
      apply ih.imp
      rintro file other ⟨i, hi, hfirst⟩
      refine ⟨i, (placesOf_concat r).mpr (Or.inl hi), fun j hj => ?_⟩
      rcases (placesOf_concat r).mp hj with hj | ⟨rfl, -⟩
      · exact hfirst j hj
      · exact lt_of_mem_placesOf hi
    rw [filesOf_concat]
    split
    · exact hlater
    · next hnew =>
      rw [List.pairwise_append]
      refine ⟨hlater, List.pairwise_singleton _ _, ?_⟩
      rintro file hfile other hother
      obtain rfl := List.mem_singleton.mp hother
      obtain ⟨q, hq, hfile⟩ := mem_filesOf.mp hfile
      obtain ⟨i, hi⟩ := List.getElem?_of_mem hq
      have hplace : i ∈ placesOf records file := mem_placesOf.mpr ⟨q, hi, hfile⟩
      refine ⟨i, (placesOf_concat r).mpr (Or.inl hplace), fun j hj => ?_⟩
      rcases (placesOf_concat r).mp hj with hj | ⟨rfl, -⟩
      · obtain ⟨p, hp, hpfile⟩ := mem_placesOf.mp hj
        exact absurd (mem_filesOf.mpr ⟨p, List.mem_of_getElem? hp, hpfile⟩) hnew
      · exact lt_of_mem_placesOf hplace

theorem places_perm (records : List (Record Int)) :
    ((filesOf records).flatMap (placesOf records)).Perm (List.range records.length) := by
  have hnodup : ((filesOf records).flatMap (placesOf records)).Nodup := by
    rw [List.nodup_flatMap]
    refine ⟨fun file _ => (pairwise_placesOf records file).imp ne_of_lt, ?_⟩
    apply (nodup_filesOf records).imp
    intro file other hne i hi hother
    obtain ⟨r, hr, hfile⟩ := mem_placesOf.mp hi
    obtain ⟨q, hq, hsame⟩ := mem_placesOf.mp hother
    obtain rfl := Option.some.inj (hr.symm.trans hq)
    exact hne (hfile.symm.trans hsame)
  apply (List.perm_ext_iff_of_nodup hnodup List.nodup_range).mpr
  intro i
  rw [List.mem_flatMap, List.mem_range]
  constructor
  · rintro ⟨file, -, hi⟩
    exact lt_of_mem_placesOf hi
  · intro hi
    have hplace : records[i]? = some records[i] := List.getElem?_eq_getElem hi
    refine ⟨records[i].key.file, ?_, mem_placesOf.mpr ⟨_, hplace, rfl⟩⟩
    exact mem_filesOf.mpr ⟨_, List.getElem_mem hi, rfl⟩

end Groups

section Within

variable {sub records : List (Record Int)} {group : List Nat} {i j : Nat}

theorem getElem?_of_group (hgroup : sub.map some = group.map (records[·]?)) {place : Nat}
    (hi : group[i]? = some place) : sub[i]? = records[place]? := by
  have hplace := congrArg (·[i]?) hgroup
  simp only [List.getElem?_map, hi, Option.map_some] at hplace
  obtain ⟨r, hr, hsome⟩ := Option.map_eq_some_iff.mp hplace
  rw [hr, hsome]

/-- What comes before among the records of a group comes before among all. -/
theorem Precedes.of_group (hgroup : sub.map some = group.map (records[·]?))
    (hsorted : group.Pairwise (· < ·)) {first second : Nat} (hi : group[i]? = some first)
    (hj : group[j]? = some second) (h : Precedes sub i j) : Precedes records first second := by
  obtain ⟨x, hx, y, hy, hnot, hearlier⟩ := h
  unfold averageAt? at hx hy
  rw [getElem?_of_group hgroup hi] at hx
  rw [getElem?_of_group hgroup hj] at hy
  refine ⟨x, hx, y, hy, hnot, fun hback => ?_⟩
  obtain ⟨hilt, rfl⟩ := List.getElem?_eq_some_iff.mp hi
  obtain ⟨hjlt, rfl⟩ := List.getElem?_eq_some_iff.mp hj
  exact List.pairwise_iff_getElem.mp hsorted i j hilt hjlt (hearlier hback)

/-- An order of the records of a group is one of the places of the group. -/
theorem exists_order_of_group {order : List Nat} (hgroup : sub.map some = group.map (records[·]?))
    (hsorted : group.Pairwise (· < ·)) (hperm : order.Perm (List.range sub.length))
    (horder : order.Pairwise (Precedes sub)) :
    ∃ places : List Nat, places.Perm group ∧ places.Pairwise (Precedes records) ∧
      places.map (records[·]?) = order.map (sub[·]?) := by
  have hlength : sub.length = group.length := by
    simpa using congrArg List.length hgroup
  let place (i : Nat) : Nat := group.getD i 0
  have hplace : ∀ i ∈ order, group[i]? = some (place i) := by
    intro i hi
    have hin : i < group.length := hlength ▸ List.mem_range.mp (hperm.mem_iff.mp hi)
    simp [place, hin]
  have hall : (List.range sub.length).map place = group := by
    rw [hlength]
    apply List.ext_getElem
    · simp
    · intro i hi hin
      simp [place, hin]
  refine ⟨order.map place, ?_, ?_, ?_⟩
  · rw [← hall]
    exact hperm.map place
  · rw [List.pairwise_map]
    apply horder.imp_of_mem
    intro i j hi hj hbefore
    exact hbefore.of_group hgroup hsorted (hplace i hi) (hplace j hj)
  · rw [List.map_map]
    apply List.map_congr_left
    intro i hi
    exact (getElem?_of_group hgroup (hplace i hi)).symm

end Within

section Blocks

variable {t : Thresholds} {default : Number} {input : ReportInput}

theorem exists_block {file : String} {ls : List String} (h : fileBlock input file = .ok ls) :
    ∃ b : FileBlock, b.lines = ls ∧ b.file = file ∧ b.script = input.scripts.get? file ∧
      Slowest input.metrics.values (placesOf input.metrics.values file) 5 b.places ∧
      b.Tells input.metrics.values := by
  let records := input.metrics.values
  obtain ⟨rated, listed, hrated, hlisted, rfl⟩ := fileBlock_eq_ok h
  obtain rfl : rated.take 5 = listed := Except.ok.inj hlisted
  obtain ⟨haverages, ranks, hranks, hrecords, hordered⟩ := exists_order hrated
  have hsorted := pairwise_placesOf records file
  obtain ⟨order, hperm, horder, hplaces⟩ :=
    exists_order_of_group (filter_file records file) hsorted hranks hordered
  have hslowest : Slowest records (placesOf records file) 5 (order.take 5) :=
    slowest_take hperm (hsorted.imp ne_of_lt) horder 5
  refine ⟨⟨file, input.scripts.get? file, order.take 5, rated.take 5⟩, rfl, rfl, rfl, hslowest, ?_⟩
  constructor
  case records => rw [List.map_take, hrecords, ← hplaces, List.map_take]
  case averages =>
    intro r hr
    exact haverages r (List.mem_of_mem_take hr)

theorem exists_blocks {files : List String} {lss : List (List String)}
    (h : files.mapM (fileBlock input) = .ok lss) :
    ∃ blocks : List FileBlock,
      blocks.map FileBlock.lines = lss ∧ blocks.map FileBlock.file = files ∧
      ∀ b ∈ blocks, b.script = input.scripts.get? b.file ∧
        Slowest input.metrics.values (placesOf input.metrics.values b.file) 5 b.places ∧
        b.Tells input.metrics.values := by
  have hall : List.Forall₂ (fun file ls => fileBlock input file = .ok ls) files lss :=
    forall₂_of_mapM (fun _ _ _ hls => hls) h
  clear h
  induction hall with
  | nil => exact ⟨[], rfl, rfl, fun b hb => absurd hb List.not_mem_nil⟩
  | cons hfirst _ ih =>
    obtain ⟨b, rfl, rfl, hb⟩ := exists_block hfirst
    obtain ⟨blocks, rfl, rfl, hblocks⟩ := ih
    exact ⟨b :: blocks, rfl, rfl, List.forall_mem_cons.mpr ⟨hb, hblocks⟩⟩

theorem breakdown_divides {ls : List String} (h : breakdown input = .ok ls) :
    ∃ blocks : List FileBlock, Divides input blocks ∧
      ls = heading "Detailed Breakdown by Script:" :: blocks.flatMap FileBlock.lines := by
  obtain ⟨lss, hlss, h⟩ := bind_eq_ok.mp h
  obtain rfl := pure_eq_ok.mp h
  obtain ⟨blocks, rfl, hfiles, hblocks⟩ := exists_blocks hlss
  refine ⟨blocks, ?_, by rw [List.flatMap_def]⟩
  constructor
  case once => rw [hfiles]; exact nodup_filesOf _
  case files => intro file; rw [hfiles]; exact mem_filesOf
  case groups =>
    have hperm := places_perm input.metrics.values
    rwa [← hfiles, List.flatMap_map] at hperm
  case order =>
    have hordered := pairwise_filesOf input.metrics.values
    rwa [← hfiles, List.pairwise_map] at hordered
  case slowest => intro b hb; exact (hblocks b hb).2.1
  case tells => intro b hb; exact (hblocks b hb).2.2
  case scripts =>
    intro b hb s
    rw [(hblocks b hb).1]
    exact ⟨Catalog.mem_of_lookup, Catalog.lookup_of_mem input.scripts.nodup⟩

/-- What stands before the breakdown, and behind it, does not depend on it. -/
theorem lines_detailed {ls : List String} (h : lines t default input true = .ok ls) :
    ∃ before details, breakdown input = .ok details ∧
      ls = before ++ (details ++ [""]) ++ recommendations input.issues ∧
      lines t default input false = .ok (before ++ recommendations input.issues) := by
  obtain ⟨load, hload, h⟩ := bind_eq_ok.mp h
  obtain ⟨overview, hoverview, h⟩ := bind_eq_ok.mp h
  obtain ⟨slowest, hslowest, h⟩ := bind_eq_ok.mp h
  obtain ⟨issues, hissues, h⟩ := bind_eq_ok.mp h
  obtain ⟨_, hblock, h⟩ := bind_eq_ok.mp h
  obtain ⟨details, hdetails, rfl⟩ := map_eq_ok.mp hblock
  obtain rfl := pure_eq_ok.mp h
  refine ⟨_, details, hdetails, rfl, ?_⟩
  unfold lines
  rw [hload, ok_bind, hoverview, ok_bind, hslowest, ok_bind, hissues, ok_bind]
  simp [ok_bind, pure, Except.pure]

/-- A report with the breakdown is the report without it, and after the issues a block for each
file: blocks stand in the order of the first records of their files, each record is of one block,
a block lists the slowest five of its records, or all there are, and the counts of a script stand
in the block of its path alone. -/
theorem breakdown_by_file {text : String} (h : render t default input true = .ok text) :
    (input.metrics.isEmpty = true ∧ text = noDataMessage ∧
      render t default input false = .ok text) ∨
    ∃ before blocks, Divides input blocks ∧
      text = joinLines (before ++
        (heading "Detailed Breakdown by Script:" :: blocks.flatMap FileBlock.lines ++ [""]) ++
        recommendations input.issues) ∧
      render t default input false = .ok (joinLines (before ++ recommendations input.issues)) := by
  unfold render at h ⊢
  split at h
  · next hempty =>
    obtain rfl := Except.ok.inj h
    exact Or.inl ⟨hempty, rfl, if_pos hempty⟩
  · next hmetrics =>
    obtain ⟨ls, hls, rfl⟩ := map_eq_ok.mp h
    obtain ⟨before, details, hdetails, rfl, hwithout⟩ := lines_detailed hls
    obtain ⟨blocks, hdivides, rfl⟩ := breakdown_divides hdetails
    refine Or.inr ⟨before, blocks, hdivides, rfl, ?_⟩
    rw [if_neg hmetrics, hwithout]
    rfl

/-- A script of one event. -/
def joinScript : ScriptInfo :=
  .ofFacts "b/shop.sk" ["on join:"] [⟨some "join", none, none, false, none, 0⟩]

/-- Records of two files of one short name, in turns, and the script of one of them. -/
def sharedNames : ReportInput where
  metrics := .ofList <|
    [("a/shop.sk", 1, 1), ("b/shop.sk", 1, 9), ("a/shop.sk", 2, 2), ("a/shop.sk", 3, 2),
      ("a/shop.sk", 4, 1), ("b/shop.sk", 2, 10), ("a/shop.sk", 5, 3), ("a/shop.sk", 6, 1)].map
      fun r =>
        let key : MetricKey := ⟨r.1, r.2.1, "event"⟩
        let time : Int := r.2.2 * 1000000
        (key, ⟨key, "on join", 1, time, time, some time⟩)
  issues := []
  scripts := .ofList [("b/shop.sk", joinScript)]
  durationMs := .int 60000
  load := .int 20

/-- Each file has its own records, the last of six of an average of one being left out, and only
the file that is known has counts. -/
theorem breakdown_by_file_sharedNames :
    ∃ text before blocks, render .default (.int 20) sharedNames true = .ok text ∧
      Divides sharedNames blocks ∧
      text = joinLines (before ++
        (heading "Detailed Breakdown by Script:" :: blocks.flatMap FileBlock.lines ++ [""]) ++
        recommendations []) ∧
      (∀ b ∈ blocks, b.file = "a/shop.sk" → b.places = [6, 2, 3, 0, 4] ∧ b.script = none) ∧
      ∀ b ∈ blocks, b.file = "b/shop.sk" → b.places = [5, 1] ∧ b.script = some joinScript := by
  have hmodest : Modest sharedNames := by
    refine ⟨?_, ?_, ?_, ?_, rfl, .int 20, rfl, rfl⟩ <;> decide +kernel
  have hrender : (render .default (.int 20) sharedNames true).isOk = true :=
    hmodest.isOk_render rfl rfl (.inl rfl) true
  obtain ⟨text, htext⟩ := isOk_iff.mp hrender
  obtain ⟨hempty, -⟩ | ⟨before, blocks, hdivides, hwritten, -⟩ := breakdown_by_file htext
  · cases hempty
  have hfirst : Slowest sharedNames.metrics.values
      (placesOf sharedNames.metrics.values "a/shop.sk") 5 [6, 2, 3, 0, 4] := by
    constructor <;> decide +kernel
  have hsecond : Slowest sharedNames.metrics.values
      (placesOf sharedNames.metrics.values "b/shop.sk") 5 [5, 1] := by
    constructor <;> decide +kernel
  refine ⟨text, before, blocks, htext, hdivides, hwritten, ?_, ?_⟩
  · intro b hb hfile
    have hslowest := hdivides.slowest b hb
    rw [hfile] at hslowest
    refine ⟨hslowest.unique hfirst, Option.eq_none_iff_forall_ne_some.mpr fun s hs => ?_⟩
    have hentry := (hdivides.scripts b hb s).mp hs
    rw [hfile] at hentry
    obtain ⟨hpath, -⟩ := Prod.mk.inj (List.mem_singleton.mp hentry)
    exact absurd hpath (by decide)
  · intro b hb hfile
    have hslowest := hdivides.slowest b hb
    rw [hfile] at hslowest
    have hentry : (b.file, joinScript) ∈ sharedNames.scripts.entries := by
      rw [hfile]
      exact List.mem_singleton_self _
    exact ⟨hslowest.unique hsecond, (hdivides.scripts b hb joinScript).mpr hentry⟩

end Blocks

end Report
end ScriptProfiling
