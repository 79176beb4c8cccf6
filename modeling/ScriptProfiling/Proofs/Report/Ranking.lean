import ScriptProfiling.Proofs.Number.Magnitude
import ScriptProfiling.Proofs.Report.Voice

/-!
# The slowest operations

Records are sorted by their averages, and sorting is stable. Which records a list of the slowest
has is told by their places: two records may be alike, two places never are. An average is never
the value that is not a number, so any two averages compare, and the places are in one order in
which each comes before those of lower averages and before later ones of the same average. A list
is cut from the front of that order.
-/
namespace ScriptProfiling

section Places

variable {α : Type} {le : α → α → Bool} {xs : List α}

/-- Items that stand in order stand so by what is compared, and where that is the same, by their
places. -/
theorem of_zipIdxLE {p q : α × Nat} (h : List.zipIdxLE le p q = true) :
    le p.1 q.1 = true ∧ (le q.1 p.1 = true → p.2 ≤ q.2) := by
  unfold List.zipIdxLE at h
  by_cases hle : le p.1 q.1 = true
  · rw [if_pos hle] at h
    refine ⟨hle, fun hback => ?_⟩
    rw [if_pos hback] at h
    exact of_decide_eq_true h
  · rw [if_neg hle] at h
    cases h

theorem exists_places_of_total (htrans : ∀ a b c, le a b = true → le b c = true → le a c = true)
    (htotal : ∀ a b, (le a b || le b a) = true) (xs : List α) :
    ∃ places : List Nat, places.Perm (List.range xs.length) ∧
      (xs.mergeSort le).map some = places.map (xs[·]?) ∧
      places.Pairwise fun i j => ∃ a b, xs[i]? = some a ∧ xs[j]? = some b ∧ le a b = true ∧
        (le b a = true → i < j) := by
  let sorted := xs.zipIdx.mergeSort (List.zipIdxLE le)
  have hperm : sorted.Perm xs.zipIdx := List.mergeSort_perm ..
  have hplace : ∀ p ∈ sorted, xs[p.2]? = some p.1 := by
    intro p hp
    exact List.mem_zipIdx_iff_getElem?.mp (hperm.mem_iff.mp hp)
  have hplaces : (sorted.map Prod.snd).Perm (List.range xs.length) := by
    have hsnd := hperm.map Prod.snd
    rwa [List.zipIdx_map_snd, ← List.range_eq_range'] at hsnd
  refine ⟨sorted.map Prod.snd, hplaces, ?_, ?_⟩
  · rw [← List.mergeSort_zipIdx, List.map_map, List.map_map]
    apply List.map_congr_left
    intro p hp
    exact (hplace p hp).symm
  · have hbefore : sorted.Pairwise fun p q => List.zipIdxLE le p q = true :=
      List.pairwise_mergeSort (List.zipIdxLE_trans htrans) (List.zipIdxLE_total htotal) _
    have hapart : sorted.Pairwise fun p q => p.2 ≠ q.2 :=
      List.pairwise_map.mp (hplaces.nodup_iff.mpr List.nodup_range)
    rw [List.pairwise_map]
    apply (hbefore.and hapart).imp_of_mem
    rintro p q hp hq ⟨hordered, hne⟩
    obtain ⟨hle, hearlier⟩ := of_zipIdxLE hordered
    refine ⟨p.1, q.1, hplace p hp, hplace q hq, hle, fun hback => ?_⟩
    exact lt_of_le_of_ne (hearlier hback) hne

/-- The comparison need only be total among the items that are sorted: there it may compare keys. -/
theorem exists_places {κ : Type} [LinearOrder κ] (key : α → κ)
    (hle : ∀ a ∈ xs, ∀ b ∈ xs, le a b = decide (key b ≤ key a)) :
    ∃ places : List Nat, places.Perm (List.range xs.length) ∧
      (xs.mergeSort le).map some = places.map (xs[·]?) ∧
      places.Pairwise fun i j => ∃ a b, xs[i]? = some a ∧ xs[j]? = some b ∧ le a b = true ∧
        (le b a = true → i < j) := by
  let larger (a b : α) : Bool := decide (key b ≤ key a)
  have hsorted : xs.mergeSort le = xs.mergeSort larger := by
    simpa using List.map_mergeSort (f := id) hle
  have htrans : ∀ a b c, larger a b = true → larger b c = true → larger a c = true := by
    intro a b c hab hbc
    exact decide_eq_true ((of_decide_eq_true hbc).trans (of_decide_eq_true hab))
  have htotal : ∀ a b, (larger a b || larger b a) = true := by
    intro a b
    simpa [larger] using le_total (key b) (key a)
  obtain ⟨places, hperm, hplaces, horder⟩ := exists_places_of_total htrans htotal xs
  rw [hsorted]
  refine ⟨places, hperm, hplaces, horder.imp ?_⟩
  rintro i j ⟨a, b, ha, hb, hab, hearlier⟩
  have hmema : a ∈ xs := List.mem_of_getElem? ha
  have hmemb : b ∈ xs := List.mem_of_getElem? hb
  refine ⟨a, b, ha, hb, (hle a hmema b hmemb).trans hab, fun hback => hearlier ?_⟩
  exact (hle b hmemb a hmema).symm.trans hback

end Places

namespace Report

/-- The average of the record at a place. -/
def averageAt? (records : List (Record Int)) (i : Nat) : Option Binary64 :=
  records[i]?.bind fun r => r.averageMs.toOption

/-- One record comes before another when the slowest come first: its average is not lower, and
if neither average is lower, it is the earlier record. -/
def Precedes (records : List (Record Int)) (i j : Nat) : Prop :=
  ∃ x ∈ averageAt? records i, ∃ y ∈ averageAt? records j,
    x.lt y = false ∧ (y.lt x = false → i < j)

instance (records : List (Record Int)) (i j : Nat) : Decidable (Precedes records i j) :=
  inferInstanceAs (Decidable (∃ x ∈ averageAt? records i, ∃ y ∈ averageAt? records j, _ ∧ (_ → _)))

/-- The places of the slowest records of a group, as many as are wanted: each place once and in
order, and every other place of the group behind all of them. -/
structure Slowest (records : List (Record Int)) (group : List Nat) (limit : Nat)
    (places : List Nat) : Prop where
  count : places.length = min limit group.length
  within : ∀ i ∈ places, i ∈ group
  nodup : places.Nodup
  order : places.Pairwise (Precedes records)
  rest : ∀ i ∈ places, ∀ j ∈ group, j ∉ places → Precedes records i j

/-- The places of the slowest records, as many as are wanted: each place once and in order, and
every other place behind all of them. -/
structure Ranking (records : List (Record Int)) (limit : Nat) (places : List Nat) : Prop where
  count : places.length = min limit records.length
  within : ∀ i ∈ places, i < records.length
  nodup : places.Nodup
  order : places.Pairwise (Precedes records)
  rest : ∀ i ∈ places, ∀ j < records.length, j ∉ places → Precedes records i j

/-- Operations are those at the given places, with ranks from one on, and each is told with its own
average and figures. -/
structure Lists (records : List (Record Int)) (places : List Nat) (listed : List Listed) :
    Prop where
  ranks : listed.map Listed.rank = List.range' 1 places.length
  records : (listed.map fun o => some o.rated.record) = places.map (records[·]?)
  averages : ∀ o ∈ listed, o.rated.record.averageMs = .ok o.rated.average
  lines : ∀ o ∈ listed, slowLines o.rank o.rated = .ok (Voice.markup.operationLines o)

section Order

variable {records : List (Record Int)} {i j limit : Nat} {group places places' : List Nat}

theorem Precedes.asymm (h : Precedes records i j) : ¬ Precedes records j i := by
  rintro ⟨y, hy, x, hx, hyx, hlater⟩
  obtain ⟨x', hx', y', hy', hxy, hearlier⟩ := h
  obtain rfl := Option.mem_unique hx hx'
  obtain rfl := Option.mem_unique hy hy'
  exact lt_asymm (hearlier hyx) (hlater hxy)

/-- What one list of the slowest has, another of the same length has too: otherwise each would
have a place that comes before one of the other. -/
theorem Slowest.subset (h : Slowest records group limit places)
    (h' : Slowest records group limit places') : places ⊆ places' := by
  intro i hi
  by_contra hout
  have hother : ∃ j ∈ places', j ∉ places := by
    by_contra hnone
    push Not at hnone
    have hperm : places'.Perm places :=
      (List.subperm_of_subset h'.nodup hnone).perm_of_length_le (by rw [h.count, h'.count])
    exact hout (hperm.mem_iff.mpr hi)
  obtain ⟨j, hj, hnot⟩ := hother
  have hbefore : Precedes records i j := h.rest i hi j (h'.within j hj) hnot
  exact hbefore.asymm (h'.rest j hj i (h.within i hi) hout)

theorem Slowest.unique (h : Slowest records group limit places)
    (h' : Slowest records group limit places') : places = places' := by
  have hperm : places.Perm places' :=
    (List.perm_ext_iff_of_nodup h.nodup h'.nodup).mpr fun i =>
      ⟨fun hi => h.subset h' hi, fun hi => h'.subset h hi⟩
  exact hperm.eq_of_pairwise (fun i j _ _ hij hji => absurd hji hij.asymm) h.order h'.order

theorem ranking_iff : Ranking records limit places ↔
    Slowest records (List.range records.length) limit places := by
  constructor
  · intro h
    constructor
    case count => rw [List.length_range]; exact h.count
    case within => exact fun i hi => List.mem_range.mpr (h.within i hi)
    case nodup => exact h.nodup
    case order => exact h.order
    case rest => exact fun i hi j hj => h.rest i hi j (List.mem_range.mp hj)
  · intro h
    constructor
    case count => rw [h.count, List.length_range]
    case within => exact fun i hi => List.mem_range.mp (h.within i hi)
    case nodup => exact h.nodup
    case order => exact h.order
    case rest => exact fun i hi j hj => h.rest i hi j (List.mem_range.mpr hj)

theorem Ranking.unique (h : Ranking records limit places) (h' : Ranking records limit places') :
    places = places' :=
  (ranking_iff.mp h).unique (ranking_iff.mp h')

theorem slowest_take {order : List Nat} (hperm : order.Perm group) (hnodup : group.Nodup)
    (horder : order.Pairwise (Precedes records)) (limit : Nat) :
    Slowest records group limit (order.take limit) := by
  constructor
  case count => rw [List.length_take, hperm.length_eq]
  case within =>
    intro i hi
    exact hperm.mem_iff.mp (List.mem_of_mem_take hi)
  case nodup => exact (hperm.nodup_iff.mpr hnodup).sublist (List.take_sublist _ _)
  case order => exact horder.take
  case rest =>
    intro i hi j hj hout
    have hin : j ∈ order.take limit ++ order.drop limit := by
      rw [List.take_append_drop]
      exact hperm.mem_iff.mpr hj
    rcases List.mem_append.mp hin with hlisted | hbehind
    · exact absurd hlisted hout
    · exact horder.rel_of_mem_take_of_mem_drop hi hbehind

end Order

section Averages

theorem averageMs_ne_nan {r : Record Int} {x : Binary64} (h : r.averageMs = .ok x) : x ≠ .nan := by
  unfold Record.averageMs at h
  split at h
  · obtain rfl := Except.ok.inj h
    simp [Binary64.zero]
  · obtain ⟨y, hy, rfl⟩ := map_eq_ok.mp h
    apply Binary64.divNat_ne_nan
    simp only [Measure.divide, quotient] at hy
    split at hy
    · obtain rfl := Except.ok.inj hy
      exact Binary64.nearest_ne_nan _ _ _
    · cases hy

/-- Where an average stands on the line. -/
def position (x : Binary64) : Extent := (Scaled.ofBinary64 x).extent?.getD ⊥

theorem extent?_of_ne_nan {x : Binary64} (hx : x ≠ .nan) :
    (Scaled.ofBinary64 x).extent? = some (position x) := by
  unfold position
  cases x with
  | nan => exact absurd rfl hx
  | infinite s => cases s <;> rfl
  | finite s m e h => rfl

theorem lt_iff_position {x y : Binary64} (hx : x ≠ .nan) (hy : y ≠ .nan) :
    x.lt y = true ↔ position x < position y := by
  rw [Binary64.lt, Scaled.lt_iff, extent?_of_ne_nan hx, extent?_of_ne_nan hy]
  constructor
  · rintro ⟨a, b, ha, hb, hab⟩
    rwa [Option.some.inj ha, Option.some.inj hb]
  · intro hlt
    exact ⟨_, _, rfl, rfl, hlt⟩

end Averages

section Slowest

variable {records : List (Record Int)} {rated : List Rated}

theorem exists_order (h : slowestFirst records = .ok rated) :
    (∀ r ∈ rated, r.record.averageMs = .ok r.average) ∧
    ∃ order : List Nat, order.Perm (List.range records.length) ∧
      (rated.map fun r => some r.record) = order.map (records[·]?) ∧
      order.Pairwise (Precedes records) := by
  obtain ⟨all, hall, rfl⟩ := map_eq_ok.mp h
  have hrecords := records_of_rate hall
  have haverages : ∀ r ∈ all, r.record.averageMs = .ok r.average := by
    intro r hr
    obtain ⟨q, -, hq⟩ := exists_of_mem_mapM hall hr
    obtain ⟨average, haverage, rfl⟩ := map_eq_ok.mp hq
    exact haverage
  have hkey : ∀ a ∈ all, ∀ b ∈ all, (!a.average.lt b.average) =
      decide (position b.average ≤ position a.average) := by
    intro a ha b hb
    have hlt :=
      lt_iff_position (averageMs_ne_nan (haverages a ha)) (averageMs_ne_nan (haverages b hb))
    rw [Bool.eq_iff_iff, Bool.not_eq_true', ← Bool.not_eq_true, hlt, decide_eq_true_eq, not_lt]
  obtain ⟨order, hperm, hplaces, horder⟩ := exists_places (fun r : Rated => position r.average) hkey
  have hat : ∀ i : Nat, records[i]? = (all[i]?).map Rated.record := by
    intro i
    rw [← hrecords, List.getElem?_map]
  refine ⟨fun r hr => haverages r (List.mem_mergeSort.mp hr), order, ?_, ?_, ?_⟩
  · rwa [← hrecords, List.length_map]
  · have hmapped := congrArg (List.map (Option.map Rated.record)) hplaces
    rw [List.map_map, List.map_map] at hmapped
    simp only [hat]
    exact hmapped
  · refine horder.imp ?_
    rintro i j ⟨a, b, ha, hb, hle, hlater⟩
    have haverage : ∀ (k : Nat) r, all[k]? = some r → averageAt? records k = some r.average := by
      intro k r hr
      rw [averageAt?, hat, hr, Option.map_some, Option.bind_some,
        haverages r (List.mem_of_getElem? hr)]
      rfl
    refine ⟨_, haverage i a ha, _, haverage j b hb, by simpa using hle, ?_⟩
    intro hnot
    exact hlater (by simpa using hnot)

theorem ranking_take {order : List Nat} (hperm : order.Perm (List.range records.length))
    (horder : order.Pairwise (Precedes records)) (limit : Nat) :
    Ranking records limit (order.take limit) :=
  ranking_iff.mpr (slowest_take hperm List.nodup_range horder limit)

end Slowest

section Listing

variable {t : Thresholds} {records : List (Record Int)} {listed : List Listed}

theorem map_fst_ranked {α : Type} (rank : Nat) (xs : List α) :
    (ranked rank xs).map Prod.fst = List.range' rank xs.length := by
  induction xs generalizing rank with
  | nil => rfl
  | cons x xs ih => rw [ranked, List.map_cons, ih, List.length_cons, List.range'_succ]

theorem lists_of_mapM {shown : List Rated} {places : List Nat}
    (h : (ranked 1 shown).mapM withFigures = .ok listed)
    (haverages : ∀ r ∈ shown, r.record.averageMs = .ok r.average)
    (hplaces : (shown.map fun r => some r.record) = places.map (records[·]?)) :
    Lists records places listed := by
  have hrated := rated_of_withFigures h
  constructor
  case ranks =>
    have hlength : shown.length = places.length := by
      simpa using congrArg List.length hplaces
    rw [← hlength, ← map_fst_ranked]
    refine map_of_mapM (fun r _ o ho => ?_) h
    obtain ⟨ls, -, rfl⟩ := map_eq_ok.mp ho
    rfl
  case records =>
    rw [← hplaces, ← hrated, List.map_map]
    rfl
  case averages =>
    intro o ho
    apply haverages
    rw [← hrated]
    exact List.mem_map_of_mem ho
  case lines =>
    intro o ho
    obtain ⟨r, -, hr⟩ := exists_of_mem_mapM h ho
    have hwritten := slowLines_written r
    rw [hr] at hwritten
    obtain ⟨ls, -, rfl⟩ := map_eq_ok.mp hr
    exact hwritten

theorem listedOperations_ranked {limit : Nat} (hlimit : t.topSlowest.whole? = some (limit : Int))
    (h : listedOperations t records = .ok listed) :
    ∃ places, Ranking records limit places ∧ Lists records places listed := by
  obtain ⟨rated, hrated, h⟩ := bind_eq_ok.mp h
  obtain ⟨shown, hshown, h⟩ := bind_eq_ok.mp h
  obtain rfl : rated.take limit = shown := by
    unfold firstOf at hshown
    rw [hlimit] at hshown
    exact Except.ok.inj hshown
  obtain ⟨haverages, order, hperm, hrecords, horder⟩ := exists_order hrated
  refine ⟨order.take limit, ranking_take hperm horder limit, lists_of_mapM h ?_ ?_⟩
  · intro r hr
    exact haverages r (List.mem_of_mem_take hr)
  · rw [List.map_take, hrecords, List.map_take]

end Listing

section Whole

variable {t : Thresholds} {default : Number} {input : ReportInput} {detailed : Bool}

/-- The slowest operations of a report are as many as wanted or all there are, ranked from one on:
averages do not increase down the list, records of the same average keep their order, none is
listed twice, and those left out come behind all that are listed. -/
theorem slowest_ranked {text : String} {limit : Nat}
    (h : render t default input detailed = .ok text) (hmetrics : input.metrics.isEmpty = false)
    (hlimit : t.topSlowest.whole? = some (limit : Int)) :
    ∃ c places, content t default input detailed = .ok c ∧
      text = joinLines (Voice.markup.write c) ∧
      Ranking input.metrics.values limit places ∧ Lists input.metrics.values places c.slowest := by
  obtain ⟨c, hc, rfl⟩ := exists_content h hmetrics
  obtain ⟨places, hranking, hlists⟩ := listedOperations_ranked hlimit (told_content hc).slowest
  exact ⟨c, places, hc, rfl, hranking, hlists⟩

/-- Two elements of the same average, and a slower one between them. -/
def tiedInput : ReportInput where
  metrics := .ofList [
    (⟨"shop.sk", 1, "event"⟩,
      ⟨⟨"shop.sk", 1, "event"⟩, "on join", 2, 4000000, 3000000, some 1000000⟩),
    (⟨"shop.sk", 9, "loop"⟩, ⟨⟨"shop.sk", 9, "loop"⟩, "loop", 1, 5000000, 5000000, some 5000000⟩),
    (⟨"base.sk", 4, "event"⟩,
      ⟨⟨"base.sk", 4, "event"⟩, "on quit", 3, 6000000, 2000000, some 2000000⟩)]
  issues := []
  scripts := .empty
  durationMs := .int 60000
  load := .int 20

/-- With room for two, the slower one is listed and the earlier of the others. -/
theorem slowest_ranked_tiedInput :
    let t : Thresholds := { Thresholds.default with topSlowest := .int 2 }
    Ranking tiedInput.metrics.values 2 [1, 0] ∧
    ∃ text c, render t (.int 20) tiedInput false = .ok text ∧
      text = joinLines (Voice.markup.write c) ∧
      Lists tiedInput.metrics.values [1, 0] c.slowest := by
  intro t
  have hmodest : Modest tiedInput := by
    refine ⟨?_, ?_, ?_, ?_, rfl, .int 20, rfl, rfl⟩ <;> decide +kernel
  have hrender : (render t (.int 20) tiedInput false).isOk = true :=
    hmodest.isOk_render rfl rfl (.inl rfl) false
  have hranking : Ranking tiedInput.metrics.values 2 [1, 0] := by
    constructor <;> decide +kernel
  obtain ⟨text, htext⟩ := isOk_iff.mp hrender
  have hlimit : t.topSlowest.whole? = some ((2 : Nat) : Int) := rfl
  obtain ⟨c, places, -, hwritten, hplaces, hlists⟩ := slowest_ranked htext rfl hlimit
  rw [hplaces.unique hranking] at hlists
  exact ⟨hranking, text, c, htext, hwritten, hlists⟩

end Whole

end Report
end ScriptProfiling
