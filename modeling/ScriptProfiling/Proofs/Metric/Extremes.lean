import ScriptProfiling.Proofs.Aggregator.Summary
import ScriptProfiling.Proofs.Number.Order
import Mathlib.Tactic

/-!
# The figures of a record

Count, total and extremes of a record change together. Whatever executions it is told of, both
extremes are seen with the first positive duration, and no average exceeds the longest one. While
no duration is negative the total holds the longest duration, and the shortest one as often as
there were positive ones.
-/
namespace ScriptProfiling

/-- The whole number that a value is, also one that is written as a flag. -/
def Value.whole? (v : Value) : Option Int := v.number?.bind Number.whole?

namespace Record

/-- One execution, timed or not. -/
def told (r : Record Int) : Option Int → Record Int
  | none => r.occurrence
  | some d => r.timed d

def toldAll (r : Record Int) (es : List (Option Int)) : Record Int := es.foldl told r

/-- The durations that are positive. -/
def positives (es : List (Option Int)) : Nat := (es.filterMap id).countP (0 < ·)

/-- What holds of the figures whatever durations came. -/
structure Extremes (r : Record Int) : Prop where
  counted : 0 ≤ r.count
  unset_iff : r.shortest = none ↔ r.longest = 0
  between : ∀ least, r.shortest = some least → 0 < least ∧ least ≤ r.longest
  total_le : r.total ≤ r.count * r.longest

/-- What holds of them besides while no duration was negative; the positive ones are counted. -/
structure Forward (r : Record Int) (positives : Nat) : Prop where
  longest_le : r.longest ≤ r.total
  mul_le : ∀ least, r.shortest = some least → least * positives ≤ r.total
  unset : r.shortest = none → positives = 0

section Step

variable {r : Record Int} {d : Int}

theorem timed_of_pos (h : 0 < d) (r : Record Int) :
    r.timed d = { r with
      count := r.count + 1
      total := r.total + d
      longest := max r.longest d
      shortest := some ((r.shortest.map (min · d)).getD d) } := by
  have htimed := Observation.note_timed r (o := ⟨r.key, "", some d⟩) rfl
  rw [if_pos h, if_pos h] at htimed
  exact htimed

theorem timed_of_not_pos (h : ¬0 < d) (r : Record Int) :
    r.timed d = { r with count := r.count + 1, total := r.total + d } := by
  have htimed := Observation.note_timed r (o := ⟨r.key, "", some d⟩) rfl
  rw [if_neg h, if_neg h] at htimed
  exact htimed

theorem count_toldAll (r : Record Int) (es : List (Option Int)) :
    (r.toldAll es).count = r.count + es.length := by
  induction es generalizing r with
  | nil => exact (Int.add_zero _).symm
  | cons e es ih =>
    have hcount : (r.told e).count = r.count + 1 := by
      cases e with
      | none => rfl
      | some d => exact count_note r ⟨r.key, "", some d⟩
    change ((r.told e).toldAll es).count = _
    rw [ih, hcount, List.length_cons]
    omega

namespace Extremes

theorem new (key : MetricKey) (name : String) : (Record.new key name).Extremes where
  counted := le_rfl
  unset_iff := iff_of_true rfl rfl
  between := fun _ h => by cases h
  total_le := le_rfl

theorem longest_nonneg (h : r.Extremes) : 0 ≤ r.longest := by
  cases hshortest : r.shortest with
  | none => exact (h.unset_iff.mp hshortest).ge
  | some least =>
    obtain ⟨hpos, hle⟩ := h.between least hshortest
    exact hpos.le.trans hle

theorem average_le (h : r.Extremes) : (r.total : ℚ) / r.count ≤ r.longest := by
  have hlongest : (0 : ℚ) ≤ r.longest := by exact_mod_cast h.longest_nonneg
  have htotal : (r.total : ℚ) ≤ r.longest * r.count := by
    rw [mul_comm]
    exact_mod_cast h.total_le
  exact div_le_of_le_mul₀ (by exact_mod_cast h.counted) hlongest htotal

theorem occurrence (h : r.Extremes) : r.occurrence.Extremes where
  counted := Int.add_nonneg h.counted Int.one_nonneg
  unset_iff := h.unset_iff
  between := h.between
  total_le := by
    change r.total ≤ (r.count + 1) * r.longest
    linarith [h.total_le, h.longest_nonneg]

theorem timed (h : r.Extremes) (d : Int) : (r.timed d).Extremes := by
  by_cases hd : 0 < d
  · rw [timed_of_pos hd]
    have hmax : 0 < max r.longest d := lt_max_of_lt_right hd
    constructor
    · exact Int.add_nonneg h.counted Int.one_nonneg
    · exact iff_of_false (Option.some_ne_none _) hmax.ne'
    · intro least hleast
      obtain rfl := Option.some.inj hleast
      cases hshortest : r.shortest with
      | none => exact ⟨hd, le_max_right _ _⟩
      | some least =>
        obtain ⟨hpos, -⟩ := h.between least hshortest
        exact ⟨lt_min hpos hd, (min_le_right _ _).trans (le_max_right _ _)⟩
    · have hrest : r.count * r.longest ≤ r.count * max r.longest d :=
        mul_le_mul_of_nonneg_left (le_max_left _ _) h.counted
      have hlast : d ≤ max r.longest d := le_max_right _ _
      change r.total + d ≤ (r.count + 1) * max r.longest d
      linarith [h.total_le]
  · rw [timed_of_not_pos hd]
    refine ⟨Int.add_nonneg h.counted Int.one_nonneg, h.unset_iff, h.between, ?_⟩
    change r.total + d ≤ (r.count + 1) * r.longest
    linarith [h.total_le, h.longest_nonneg]

theorem told (h : r.Extremes) (e : Option Int) : (r.told e).Extremes := by
  cases e with
  | none => exact h.occurrence
  | some d => exact h.timed d

theorem toldAll (h : r.Extremes) (es : List (Option Int)) : (r.toldAll es).Extremes := by
  induction es generalizing r with
  | nil => exact h
  | cons e es ih => exact ih (h.told e)

end Extremes

namespace Forward

variable {n : Nat}

theorem new (key : MetricKey) (name : String) : (Record.new key name).Forward 0 where
  longest_le := le_rfl
  mul_le := fun _ h => by cases h
  unset := fun _ => rfl

theorem timed (h : r.Forward n) (hextremes : r.Extremes) (hd : 0 ≤ d) :
    (r.timed d).Forward (n + if 0 < d then 1 else 0) := by
  by_cases hpos : 0 < d
  · rw [timed_of_pos hpos, if_pos hpos]
    have htotal : 0 ≤ r.total := hextremes.longest_nonneg.trans h.longest_le
    constructor
    · change max r.longest d ≤ r.total + d
      exact max_le (by linarith [h.longest_le]) (by linarith)
    · intro least hleast
      obtain rfl := Option.some.inj hleast
      change _ ≤ r.total + d
      rw [Nat.cast_add, Nat.cast_one, mul_add, mul_one]
      cases hshortest : r.shortest with
      | none =>
        rw [h.unset hshortest]
        simpa using htotal
      | some least =>
        have hrest : min least d * n ≤ least * n :=
          mul_le_mul_of_nonneg_right (min_le_left _ _) (Int.natCast_nonneg n)
        have hlast : min least d ≤ d := min_le_right _ _
        have hmul := h.mul_le least hshortest
        simp only [Option.map_some, Option.getD_some]
        linarith
    · intro hnone
      cases hnone
  · obtain rfl : d = 0 := le_antisymm (not_lt.mp hpos) hd
    rw [timed_of_not_pos hpos, if_neg hpos, add_zero, add_zero]
    exact ⟨h.longest_le, h.mul_le, h.unset⟩

theorem told (h : r.Forward n) (hextremes : r.Extremes) {e : Option Int} (he : ∀ d ∈ e, 0 ≤ d) :
    (r.told e).Forward (n + positives [e]) := by
  cases e with
  | none => exact ⟨h.longest_le, h.mul_le, h.unset⟩
  | some d =>
    have hcount : positives [some d] = if 0 < d then 1 else 0 := by simp [positives]
    rw [hcount]
    exact h.timed hextremes (he d rfl)

theorem toldAll (h : r.Forward n) (hextremes : r.Extremes) {es : List (Option Int)}
    (hes : ∀ d, some d ∈ es → 0 ≤ d) : (r.toldAll es).Forward (n + positives es) := by
  induction es generalizing r n with
  | nil => exact h
  | cons e es ih =>
    have hcount : positives (e :: es) = positives [e] + positives es := by
      rw [positives, positives, positives, ← List.countP_append, ← List.filterMap_append,
        List.singleton_append]
    rw [hcount, ← add_assoc]
    refine ih (h.told hextremes fun d hd => ?_) (hextremes.told e) fun d hd => ?_
    · exact hes d (hd ▸ List.mem_cons_self)
    · exact hes d (List.mem_cons_of_mem _ hd)

end Forward

end Step

/-- One execution of a record by itself, with the fault of a duration that cannot be added. -/
def toldValue (r : Record Number) : Option Value → Record Number × Option Fault
  | none => (r.occurrence, none)
  | some v => r.addValue v

/-- Several of them, with their faults. -/
def toldValues (r : Record Number) : List (Option Value) → Record Number × List Fault
  | [] => (r, [])
  | e :: es =>
    let rest := (r.toldValue e).1.toldValues es
    (rest.1, (r.toldValue e).2.toList ++ rest.2)

/-- A record of numbers that are whole stands for the record of these. -/
structure Stands (s : Record Number) (r : Record Int) : Prop where
  key : s.key = r.key
  name : s.name = r.name
  count : s.count = r.count
  total : s.total.whole? = some r.total
  longest : s.longest.whole? = some r.longest
  shortest : s.shortest.map Number.whole? = r.shortest.map some

namespace Stands

variable {s : Record Number} {r : Record Int}

theorem new (key : MetricKey) (name : String) :
    Stands (Record.new key name) (Record.new key name) where
  key := rfl
  name := rfl
  count := rfl
  total := rfl
  longest := rfl
  shortest := rfl

theorem occurrence (h : s.Stands r) : s.occurrence.Stands r.occurrence :=
  ⟨h.key, h.name, congrArg (· + 1) h.count, h.total, h.longest, h.shortest⟩

theorem withPositive (h : s.Stands r) {x : Number} {d : Int} (hx : x.whole? = some d) :
    (s.withPositive x).Stands (r.withPositive d) := by
  refine ⟨h.key, h.name, h.count, h.total, ?_, ?_⟩
  · have hlt : s.longest.lt x = decide (r.longest < d) := Number.lt_whole h.longest hx
    simp only [Record.withPositive, Measure.lt, hlt, apply_ite Number.whole?, h.longest, hx,
      apply_ite (some : Int → Option Int)]
  · have hshortest := h.shortest
    unfold Record.withPositive
    cases hs : s.shortest with
    | none =>
      rw [hs] at hshortest
      rw [Option.map_eq_none_iff.mp hshortest.symm]
      simp [hx]
    | some y =>
      rw [hs, Option.map_some] at hshortest
      obtain ⟨least, hleast, hy⟩ := Option.map_eq_some_iff.mp hshortest.symm
      have hlt : x.lt y = decide (d < least) := Number.lt_whole hx hy.symm
      rw [hleast]
      simp only [Measure.lt, hlt]
      split
      · simp [hx]
      · simp [← hy]

theorem toldValue (h : s.Stands r) {e : Option Value} (he : ∀ v ∈ e, v.whole?.isSome) :
    (s.toldValue e).2 = none ∧ (s.toldValue e).1.Stands (r.told (e.bind Value.whole?)) := by
  cases e with
  | none => exact ⟨rfl, h.occurrence⟩
  | some v =>
    obtain ⟨d, hd⟩ := Option.isSome_iff_exists.mp (he v rfl)
    obtain ⟨x, hv, hx⟩ := Option.bind_eq_some_iff.mp hd
    have hadd : s.total.add x = .ok (.int (r.total + d)) := by
      rw [Number.add, h.total, hx]
    have hlt : (Number.int 0).lt x = decide (0 < d) := Number.lt_whole rfl hx
    have htimed : s.addValue v = (s.occurrence.withDuration (.int (r.total + d)) x, none) := by
      simp only [addValue, hv, add, Measure.add, hadd]
    have hsum : ({ s.occurrence with total := .int (r.total + d) } : Record Number).Stands
        { r.occurrence with total := r.total + d } :=
      ⟨h.key, h.name, h.occurrence.count, rfl, h.longest, h.shortest⟩
    rw [Option.bind_some, hd]
    refine ⟨congrArg Prod.snd htimed, ?_⟩
    rw [Record.toldValue, htimed, Record.told, Record.timed, withDuration, withDuration]
    simp only [Measure.lt, Measure.zero, hlt]
    split
    · exact hsum.withPositive hx
    · exact hsum

theorem toldValues (h : s.Stands r) {es : List (Option Value)}
    (hes : ∀ v, some v ∈ es → v.whole?.isSome) :
    (s.toldValues es).2 = [] ∧
      (s.toldValues es).1.Stands (r.toldAll (es.map (·.bind Value.whole?))) := by
  induction es generalizing s r with
  | nil => exact ⟨rfl, h⟩
  | cons e es ih =>
    obtain ⟨hfault, hnext⟩ := h.toldValue fun v hv => hes v (hv ▸ List.mem_cons_self)
    obtain ⟨hfaults, hrest⟩ := ih hnext fun v hv => hes v (List.mem_cons_of_mem _ hv)
    refine ⟨?_, hrest⟩
    rw [Record.toldValues, hfault, hfaults]
    rfl

end Stands

/-- A record that is told of any executions by whole durations, of either sign or unknown, has no
shortest duration exactly if its longest one is zero; else the shortest one is positive and not
above the longest one. Its total is at most the longest duration for each execution, so that no
average is above it. If no duration was negative the total is no less than the longest one, nor
than the shortest one for each positive one. The same figures are in a record that is told of
these durations by themselves, and none of them is refused. -/
theorem extremes_of_executions (key : MetricKey) (name : String) (es : List (Option Value))
    (hes : ∀ v, some v ∈ es → v.whole?.isSome) :
    let durations := es.map (·.bind Value.whole?)
    let r : Record Int := (new key name).toldAll durations
    ((new key name).toldValues es).2 = [] ∧ ((new key name).toldValues es).1.Stands r ∧
    r.count = es.length ∧
    (r.shortest = none ↔ r.longest = 0) ∧
    (∀ least, r.shortest = some least → 0 < least ∧ least ≤ r.longest) ∧
    r.total ≤ r.count * r.longest ∧ (r.total : ℚ) / r.count ≤ r.longest ∧
    ((∀ d, some d ∈ durations → 0 ≤ d) →
      0 ≤ r.longest ∧ r.longest ≤ r.total ∧
      ∀ least, r.shortest = some least → least * positives durations ≤ r.total) := by
  intro durations r
  obtain ⟨hfaults, hstands⟩ := (Stands.new key name).toldValues hes
  have hextremes : r.Extremes := (Extremes.new key name).toldAll durations
  have hcount : r.count = es.length := by
    rw [count_toldAll, List.length_map]
    exact Int.zero_add _
  refine ⟨hfaults, hstands, hcount, hextremes.unset_iff, hextremes.between, hextremes.total_le,
    hextremes.average_le, fun hdurations => ?_⟩
  have hforward : r.Forward (0 + positives durations) :=
    (Forward.new key name).toldAll (Extremes.new key name) hdurations
  rw [Nat.zero_add] at hforward
  exact ⟨hextremes.longest_nonneg, hforward.longest_le, hforward.mul_le⟩

/-- Executions of which one has a clock that went back, and others that never do. -/
def backwardSpans : List (Option Value) :=
  [some (.int 7), none, some (.int (-9)), some (.bool true)]

def forwardSpans : List (Option Value) := [some (.int 7), none, some (.int 0), some (.int 2)]

/-- A total below zero leaves the extremes as they are; without it both are held by the total. -/
theorem extremes_of_executions_spans :
    let key : MetricKey := ⟨"shop.sk", 1, "event"⟩
    let back : Record Int := (new key "").toldAll [some 7, none, some (-9), some 1]
    let forth : Record Int := (new key "").toldAll [some 7, none, some 0, some 2]
    ((new key "").toldValues backwardSpans).1.Stands back ∧
    (back.count, back.total, back.longest, back.shortest) = (4, -1, 7, some 1) ∧
    back.total ≤ back.count * back.longest ∧
    ((new key "").toldValues forwardSpans).2 = [] ∧
    (forth.longest, forth.total, forth.shortest, positives [some 7, none, some 0, some 2]) =
      (7, 9, some 2, 2) ∧
    forth.longest ≤ forth.total ∧
    ∀ least, forth.shortest = some least → least * 2 ≤ forth.total := by
  intro key back forth
  have hwhole : ∀ v, some v ∈ backwardSpans ++ forwardSpans → v.whole?.isSome := by
    simp [backwardSpans, forwardSpans, Value.whole?, Value.number?, Number.whole?]
  have hforward : ∀ d, some d ∈ forwardSpans.map (·.bind Value.whole?) → 0 ≤ d := by
    simp [forwardSpans, Value.whole?, Value.number?, Number.whole?]
  obtain ⟨-, hback, -, -, -, htotal, -, -⟩ := extremes_of_executions key "" backwardSpans
    fun v hv => hwhole v (List.mem_append_left _ hv)
  obtain ⟨hfaults, -, -, -, -, -, -, hforth⟩ := extremes_of_executions key "" forwardSpans
    fun v hv => hwhole v (List.mem_append_right _ hv)
  obtain ⟨-, hlongest, hshortest⟩ := hforth hforward
  exact ⟨hback, by decide, htotal, hfaults, by decide, hlongest, hshortest⟩

end Record
end ScriptProfiling
