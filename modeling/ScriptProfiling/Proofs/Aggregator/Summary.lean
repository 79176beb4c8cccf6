import ScriptProfiling.Proofs.Aggregator.History
import ScriptProfiling.Proofs.Catalog
import Mathlib.Tactic

/-!
# Summaries of observations

What the records of a list of observations ought to be: one for each key, in the order
in which the keys are first observed, with the count, the sum and the extremes taken
over the observations of that key alone. Taking in one more observation changes the
summary as an aggregator changes its records.
-/
namespace ScriptProfiling
namespace Observation

/-- The durations that are known. -/
def durations (os : List Observation) : List Int := os.filterMap (·.duration)

def positives (os : List Observation) : List Int := (durations os).filter (0 < ·)

/-- An element goes by the name of its first observation, or by its kind if that is empty. -/
def elementName (key : MetricKey) (os : List Observation) : String :=
  match os.head? with
  | some o => if o.name.isEmpty then key.kind else o.name
  | none => key.kind

/-- The record that the observations of one key call for. -/
def summary (key : MetricKey) (os : List Observation) : Record Int where
  key := key
  name := elementName key os
  count := os.length
  total := (durations os).sum
  longest := (positives os).foldl max 0
  shortest := (positives os).min?

def ofKey (key : MetricKey) (os : List Observation) : List Observation :=
  os.filter (·.key = key)

/-- The keys of some observations, each once, in the order of first observation. -/
def keys (os : List Observation) : List MetricKey := (os.map (·.key)).eraseDups

/-- A summary for each key. -/
def digest (os : List Observation) : List (MetricKey × Record Int) :=
  (keys os).map fun key => (key, summary key (ofKey key os))

end Observation

namespace Record

/-- A record with one more observation. -/
def note (r : Record Int) (o : Observation) : Record Int :=
  match o.duration with
  | none => r.occurrence
  | some d => r.timed d

@[simp] theorem key_note (r : Record Int) (o : Observation) : (r.note o).key = r.key := by
  unfold note
  split
  · rfl
  · simp only [timed, withDuration, withPositive, occurrence]
    split <;> rfl

theorem count_note (r : Record Int) (o : Observation) : (r.note o).count = r.count + 1 := by
  unfold note
  split
  · rfl
  · simp only [timed, withDuration, withPositive, occurrence]
    split <;> rfl

end Record

namespace Observation

section Records

theorem min?_append_singleton (xs : List Int) (x : Int) :
    (xs ++ [x]).min? = some ((xs.min?.map (min · x)).getD x) := by
  cases xs with
  | nil => rfl
  | cons first xs =>
    simp only [List.cons_append, List.min?_cons', List.foldl_append, List.foldl_cons,
      List.foldl_nil, Option.map_some, Option.getD_some]

theorem note_untimed (r : Record Int) {o : Observation} (h : o.duration = none) :
    r.note o = { r with count := r.count + 1 } := by
  simp only [Record.note, h, Record.occurrence]

/-- Only a positive duration takes part in the extremes. -/
theorem note_timed (r : Record Int) {o : Observation} {d : Int} (h : o.duration = some d) :
    r.note o = { r with
      count := r.count + 1
      total := r.total + d
      longest := if 0 < d then max r.longest d else r.longest
      shortest := if 0 < d then some ((r.shortest.map (min · d)).getD d) else r.shortest } := by
  simp only [Record.note, h, Record.timed, Record.withDuration, Record.occurrence, Measure.lt,
    Measure.zero, decide_eq_true_eq]
  split
  · next hpos =>
    simp only [Record.withPositive, Measure.lt, decide_eq_true_eq, Record.mk.injEq, true_and]
    constructor
    · rw [max_def]
      grind
    · cases r.shortest with
      | none => rfl
      | some least =>
        simp only [Option.map_some, Option.getD_some, min_def]
        grind
  · rfl

theorem durations_append_singleton (os : List Observation) (o : Observation) :
    durations (os ++ [o]) = durations os ++ o.duration.toList := by
  cases h : o.duration <;> simp [durations, List.filterMap_append, h]

theorem elementName_append (key : MetricKey) {os : List Observation} (h : os ≠ [])
    (o : Observation) : elementName key (os ++ [o]) = elementName key os := by
  cases os with
  | nil => exact absurd rfl h
  | cons first os => rfl

/-- The summary of one more observation notes it in a record of the name that it keeps. -/
theorem summary_append_singleton (key : MetricKey) (os : List Observation) (o : Observation) :
    summary key (os ++ [o]) =
      { summary key os with name := elementName key (os ++ [o]) }.note o := by
  cases h : o.duration with
  | none => simp [summary, note_untimed _ h, positives, durations_append_singleton, h]
  | some d =>
    rw [note_timed _ h]
    simp only [summary, positives, durations_append_singleton, h, Option.toList_some,
      List.filter_append, List.length_append, List.length_singleton, List.sum_append]
    by_cases hpos : 0 < d
    · simp [hpos, min?_append_singleton]
    · simp [hpos]

theorem summary_note (key : MetricKey) (os : List Observation) (o : Observation) :
    summary key (os ++ [o]) =
      (if os = [] then Record.new key o.name else summary key os).note o := by
  rw [summary_append_singleton]
  split
  · next h =>
    subst h
    rfl
  · next h => rw [elementName_append key h, summary]

end Records

section Digest

theorem mem_keys (key : MetricKey) (os : List Observation) :
    key ∈ keys os ↔ ∃ o ∈ os, o.key = key := by
  simp [keys]

theorem keys_append_singleton (os : List Observation) (o : Observation) :
    keys (os ++ [o]) = if o.key ∈ keys os then keys os else keys os ++ [o.key] := by
  rw [keys, List.map_append, List.eraseDups_append]
  by_cases h : ∃ x ∈ os, x.key = o.key
  · simp [List.removeAll, keys, h]
  · simp [List.removeAll, keys, h, List.eraseDups_cons]

theorem ofKey_append_of_eq {key : MetricKey} {o : Observation} (h : o.key = key)
    (os : List Observation) : ofKey key (os ++ [o]) = ofKey key os ++ [o] := by
  simp [ofKey, h]

theorem ofKey_append_of_ne {key : MetricKey} {o : Observation} (h : o.key ≠ key)
    (os : List Observation) : ofKey key (os ++ [o]) = ofKey key os := by
  simp [ofKey, h]

theorem ofKey_eq_nil_iff (key : MetricKey) (os : List Observation) :
    ofKey key os = [] ↔ key ∉ keys os := by
  simp [ofKey, mem_keys]

theorem map_fst_digest (os : List Observation) : (digest os).map Prod.fst = keys os := by
  simp [digest, Function.comp_def]

theorem lookup_digest (key : MetricKey) (os : List Observation) :
    Catalog.lookup key (digest os) =
      if key ∈ keys os then some (summary key (ofKey key os)) else none :=
  Catalog.lookup_map (fun key => summary key (ofKey key os)) key (keys os)

theorem digest_append_singleton (os : List Observation) (o : Observation)
    (h : (keys os).Nodup) :
    digest (os ++ [o]) =
      Catalog.fileIn o.key (summary o.key (ofKey o.key os ++ [o])) (digest os) := by
  rw [digest, digest, Catalog.fileIn_map _ _ _ h, keys_append_singleton]
  apply List.map_congr_left
  intro key _
  by_cases hkey : key = o.key
  · rw [hkey, if_pos rfl, ofKey_append_of_eq rfl]
  · rw [if_neg hkey, ofKey_append_of_ne (Ne.symm hkey)]

end Digest

end Observation
end ScriptProfiling
