import ScriptProfiling.Proofs.Aggregator.Growth
import ScriptProfiling.Proofs.Detection.Arrival
import Mathlib.Data.List.Flatten

/-!
# Threads side by side

Several threads tell a running aggregator of executions, each in its own order. Whichever
thread comes next at each step, the same executions are counted: what two observations do to a
record does not depend on which of them comes first. Only a new key takes its place and its
name from the thread that happens to tell of it first.
-/
namespace ScriptProfiling

/-- An order in which the items of some threads may come: each next item is the first one that
is left of some thread. -/
inductive Interleaving {α : Type} : List (List α) → List α → Prop
  | done {threads : List (List α)} (h : ∀ thread ∈ threads, thread = []) : Interleaving threads []
  | step (before : List (List α)) {after : List (List α)} {x : α} {rest xs : List α}
      (h : Interleaving (before ++ rest :: after) xs) :
      Interleaving (before ++ (x :: rest) :: after) (x :: xs)

theorem Interleaving.perm {α : Type} {threads : List (List α)} {xs : List α}
    (h : Interleaving threads xs) : xs.Perm threads.flatten := by
  induction h with
  | done h =>
    rw [List.flatten_eq_nil_iff.mpr h]
  | @step before after x rest xs _ ih =>
    have hmoved : (x :: (before.flatten ++ (rest ++ after.flatten))).Perm
        (before.flatten ++ x :: (rest ++ after.flatten)) := List.perm_middle.symm
    rw [List.flatten_append, List.flatten_cons] at ih ⊢
    exact (ih.cons x).trans hmoved

namespace Catalog

variable {κ β : Type} [DecidableEq κ]

/-- A sum over the values gives up the value that is replaced. -/
theorem sum_fileIn (f : β → Int) (key : κ) (value : β) (es : List (κ × β)) :
    ((fileIn key value es).map fun e => f e.2).sum =
      (es.map fun e => f e.2).sum - ((lookup key es).map f).getD 0 + f value := by
  induction es with
  | nil => simp [fileIn, lookup]
  | cons e es ih =>
    by_cases hkey : e.1 = key
    · simp only [fileIn, lookup, hkey, if_true, List.map_cons, List.sum_cons, Option.map_some,
        Option.getD_some]
      omega
    · simp only [fileIn, lookup, hkey, if_false, List.map_cons, List.sum_cons, ih]
      omega

theorem sum_values_put (f : β → Int) (c : Catalog κ β) (key : κ) (value : β) :
    ((c.put key value).values.map f).sum =
      (c.values.map f).sum - ((c.get? key).map f).getD 0 + f value := by
  rw [values, values, List.map_map, List.map_map]
  exact sum_fileIn f key value c.entries

end Catalog

namespace Record

theorem note_right_comm (r : Record Int) (o p : Observation) :
    (r.note o).note p = (r.note p).note o := by
  cases ho : o.duration with
  | none =>
    cases hp : p.duration with
    | none => simp only [Observation.note_untimed _ ho, Observation.note_untimed _ hp]
    | some e => simp only [Observation.note_untimed _ ho, Observation.note_timed _ hp]
  | some d =>
    cases hp : p.duration with
    | none => simp only [Observation.note_timed _ ho, Observation.note_untimed _ hp]
    | some e =>
      simp only [Observation.note_timed _ ho, Observation.note_timed _ hp, Record.mk.injEq,
        true_and]
      refine ⟨Int.add_right_comm .., ?_, ?_⟩
      · split_ifs
        · exact max_right_comm ..
        all_goals rfl
      · split_ifs
        · cases r.shortest with
          | none => simp [min_comm]
          | some least => simp [min_right_comm]
        all_goals rfl

instance : RightCommutative Record.note := ⟨note_right_comm⟩

theorem unnamed_note (r : Record Int) (o : Observation) :
    (r.note o).unnamed = r.unnamed.note o := by
  cases ho : o.duration with
  | none => rw [Observation.note_untimed _ ho, Observation.note_untimed _ ho, unnamed, unnamed]
  | some d => rw [Observation.note_timed _ ho, Observation.note_timed _ ho, unnamed, unnamed]

theorem unnamed_noteAll (r : Record Int) (os : List Observation) :
    (os.foldl note r).unnamed = os.foldl note r.unnamed := by
  induction os generalizing r with
  | nil => rfl
  | cons o os ih => rw [List.foldl_cons, List.foldl_cons, ih, unnamed_note]

theorem count_noteAll (r : Record Int) (os : List Observation) :
    (os.foldl note r).count = r.count + os.length := by
  induction os generalizing r with
  | nil => simp
  | cons o os ih =>
    rw [List.foldl_cons, ih, count_note, List.length_cons]
    omega

end Record

namespace Metrics

variable {m : Metrics} {key : MetricKey} {os ps : List Observation}

/-- The record of a key after observations of it alone. -/
def noted (m : Metrics) (key : MetricKey) : List Observation → Option (Record Int)
  | [] => m.get? key
  | o :: os => some ((o :: os).foldl Record.note (m.recordOf key o.name))

theorem noted_of_get? {r : Record Int} (h : m.get? key = some r) (os : List Observation) :
    m.noted key os = some (os.foldl Record.note r) := by
  cases os with
  | nil => exact h
  | cons o os => rw [noted, recordOf, h, Option.getD_some]

theorem get?_observe (m : Metrics) (o : Observation) (key : MetricKey) :
    (m.observe o).get? key =
      if o.key = key then some ((m.recordOf key o.name).note o) else m.get? key := by
  rw [observe, Catalog.get?_put]
  split
  · next h => rw [h]
  · rfl

theorem get?_observeAll (m : Metrics) (key : MetricKey) (os : List Observation) :
    (os.foldl observe m).get? key = m.noted key (Observation.ofKey key os) := by
  induction os generalizing m with
  | nil => rfl
  | cons o os ih =>
    rw [List.foldl_cons, ih]
    by_cases h : o.key = key
    · have hfirst : Observation.ofKey key (o :: os) = o :: Observation.ofKey key os := by
        simp [Observation.ofKey, h]
      rw [hfirst, noted_of_get? (by rw [get?_observe, if_pos h])]
      rfl
    · have hother : Observation.ofKey key (o :: os) = Observation.ofKey key os := by
        simp [Observation.ofKey, h]
      have hget : (m.observe o).get? key = m.get? key := by rw [get?_observe, if_neg h]
      rw [hother]
      cases Observation.ofKey key os with
      | nil => exact hget
      | cons p ps => rw [noted, noted, recordOf, recordOf, hget]

theorem noted_perm (h : os.Perm ps) :
    (m.noted key os).map Record.unnamed = (m.noted key ps).map Record.unnamed := by
  cases os with
  | nil => rw [h.nil_eq]
  | cons o os =>
    cases ps with
    | nil => exact absurd h.eq_nil (List.cons_ne_nil _ _)
    | cons p ps =>
      have hbegun : (m.recordOf key o.name).unnamed = (m.recordOf key p.name).unnamed := by
        rw [recordOf, recordOf]
        cases m.get? key <;> rfl
      rw [noted, noted, Option.map_some, Option.map_some, Record.unnamed_noteAll,
        Record.unnamed_noteAll, hbegun, h.foldl_eq]

/-- How often an element has been executed. -/
def executionsOf (m : Metrics) (key : MetricKey) : Int := ((m.get? key).map Record.count).getD 0

theorem count_noted (m : Metrics) (key : MetricKey) (os : List Observation) :
    ((m.noted key os).map Record.count).getD 0 = m.executionsOf key + os.length := by
  cases os with
  | nil => simp [noted, executionsOf]
  | cons o os =>
    rw [noted, Option.map_some, Option.getD_some, Record.count_noteAll, recordOf, executionsOf]
    cases m.get? key <;> rfl

theorem executions_observe (m : Metrics) (o : Observation) :
    (m.observe o).executions = m.executions + 1 := by
  rw [executions, observe, Catalog.sum_values_put, Record.count_note, recordOf, executions]
  cases m.get? o.key with
  | none =>
    simp only [Option.map_none, Option.getD_none, Record.new]
    omega
  | some r =>
    simp only [Option.map_some, Option.getD_some]
    omega

theorem executions_observeAll (m : Metrics) (os : List Observation) :
    (os.foldl observe m).executions = m.executions + os.length := by
  induction os generalizing m with
  | nil => simp
  | cons o os ih =>
    rw [List.foldl_cons, ih, executions_observe, List.length_cons]
    omega

theorem keys_prefix_observeAll (m : Metrics) (os : List Observation) :
    m.keys <+: (os.foldl observe m).keys := by
  induction os generalizing m with
  | nil => exact List.prefix_rfl
  | cons o os ih =>
    have hfirst : m.keys <+: (m.observe o).keys := by
      rw [observe, Catalog.keys_put]
      split
      · exact List.prefix_rfl
      · exact List.prefix_append ..
    exact hfirst.trans (ih (m.observe o))

/-- In whatever order observations come, each key has the same record up to its name. -/
theorem observeAll_perm (h : os.Perm ps) (key : MetricKey) :
    ((os.foldl observe m).get? key).map Record.unnamed =
      ((ps.foldl observe m).get? key).map Record.unnamed := by
  have hsame : (Observation.ofKey key os).Perm (Observation.ofKey key ps) := h.filter _
  rw [get?_observeAll, get?_observeAll, noted_perm hsame]

theorem observeAll_perm_of_mem (h : os.Perm ps) (hkey : key ∈ m.keys) :
    (os.foldl observe m).get? key = (ps.foldl observe m).get? key := by
  obtain ⟨r, hr⟩ := Catalog.mem_keys_iff.mp hkey
  have hsame : (Observation.ofKey key os).Perm (Observation.ofKey key ps) := h.filter _
  rw [get?_observeAll, get?_observeAll, noted_of_get? hr, noted_of_get? hr, hsame.foldl_eq]

theorem keys_observeAll_perm (h : os.Perm ps) :
    (os.foldl observe m).keys.Perm (ps.foldl observe m).keys := by
  refine (List.perm_ext_iff_of_nodup (os.foldl observe m).nodup
    (ps.foldl observe m).nodup).mpr fun key => ?_
  have hsame := observeAll_perm (m := m) h key
  change key ∈ (os.foldl observe m).keys ↔ key ∈ (ps.foldl observe m).keys
  rw [Catalog.mem_keys_iff, Catalog.mem_keys_iff, ← Option.isSome_iff_exists,
    ← Option.isSome_iff_exists, ← Option.isSome_map, hsame, Option.isSome_map]

end Metrics

namespace Aggregator

open Metrics

/-- Whatever an aggregator has been through, as long as it is active: threads that tell it of
executions side by side leave the same count, total, longest and shortest duration of every key
as they do one after another, in any order of the threads. What was there before keeps its place
and its name; only the order of new keys and their names may differ. Every observation is
counted once, under its own key. -/
theorem parallel_exact (past : List Operation) (hactive : (fresh.operate past).active = true)
    {threads turns : List (List Observation)} {os : List Observation}
    (hturns : turns.Perm threads) (hos : Interleaving threads os) :
    let before := (fresh.operate past).snapshot
    let apart := ((fresh.operate past).replay turns.flatten).snapshot
    let together := ((fresh.operate past).replay os).snapshot
    (∀ key, (together.get? key).map Record.unnamed = (apart.get? key).map Record.unnamed) ∧
    (∀ key ∈ before.keys, together.get? key = apart.get? key) ∧
    before.keys <+: together.keys ∧ together.keys.Perm apart.keys ∧
    (∀ key, together.executionsOf key =
      before.executionsOf key + (Observation.ofKey key threads.flatten).length) ∧
    together.executions = before.executions + threads.flatten.length := by
  intro before apart together
  have hkeys : OwnKeys (fresh.operate past).records := ownKeys_operate ownKeys_empty past
  have htogether : together = os.foldl observe before := records_replay hactive hkeys os
  have hapart : apart = turns.flatten.foldl observe before := records_replay hactive hkeys _
  have hsame : os.Perm threads.flatten := hos.perm
  have hperm : os.Perm turns.flatten := hsame.trans hturns.flatten.symm
  rw [htogether, hapart]
  refine ⟨observeAll_perm hperm, fun key hkey => observeAll_perm_of_mem hperm hkey,
    keys_prefix_observeAll before os, keys_observeAll_perm hperm, fun key => ?_, ?_⟩
  · have hlength : (Observation.ofKey key os).length =
        (Observation.ofKey key threads.flatten).length := (hsame.filter _).length_eq
    rw [← hlength, ← count_noted, ← get?_observeAll]
    rfl
  · rw [executions_observeAll, hsame.length_eq]

/-- Three threads that time an element that is known, and of which two tell of a new one. -/
def busyThreads : List (List Observation) :=
  let join : MetricKey := ⟨"shop.sk", 1, "event"⟩
  let each : MetricKey := ⟨"shop.sk", 4, "loop"⟩
  [[⟨join, "first", some 5⟩, ⟨each, "outer", some 0⟩], [⟨each, "inner", some 3⟩],
    [⟨join, "third", some (-2)⟩, ⟨join, "third", none⟩]]

/-- The second thread is the first to tell of the new element, which goes by its name then. -/
theorem parallel_exact_busyThreads :
    let join : MetricKey := ⟨"shop.sk", 1, "event"⟩
    let each : MetricKey := ⟨"shop.sk", 4, "loop"⟩
    let past : List Operation := [.start (.zero false), .record (.span join (.int 8) "on join")]
    let os : List Observation := [⟨join, "third", some (-2)⟩, ⟨each, "inner", some 3⟩,
      ⟨join, "first", some 5⟩, ⟨each, "outer", some 0⟩, ⟨join, "third", none⟩]
    let together := ((fresh.operate past).replay os).snapshot
    (fresh.operate past).active = true ∧ busyThreads.reverse.Perm busyThreads ∧
    Interleaving busyThreads os ∧
    together.get? join = some ⟨join, "on join", 4, 11, 8, some 5⟩ ∧
    (together.get? each).map Record.unnamed = some ⟨each, "", 2, 3, 3, some 3⟩ ∧
    together.executions = 6 := by
  intro join each past os together
  have hactive : (fresh.operate past).active = true := by decide
  have hturns : busyThreads.reverse.Perm busyThreads := List.reverse_perm _
  have hos : Interleaving busyThreads os :=
    .step [_, _] <| .step [_] <| .step [] <| .step [] <| .step [_, _] <| .done (by simp)
  obtain ⟨hsame, hknown, -, -, -, hexecutions⟩ := parallel_exact past hactive hturns hos
  refine ⟨hactive, hturns, hos, ?_, ?_, ?_⟩
  · exact (hknown join (by decide)).trans (by decide)
  · exact (hsame each).trans (by decide)
  · exact hexecutions.trans (by decide)

end Aggregator
end ScriptProfiling
