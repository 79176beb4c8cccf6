import ScriptProfiling.Proofs.Aggregator.Snapshot

/-!
# Tallies

What a list of recordings leaves behind when it is told to an empty catalog, with no
aggregator, clock or session around it. A running session files exactly the tally of what
it is told, and recordings without a fault tally to the digest of their observations.
-/
namespace ScriptProfiling

open Observation

namespace Metrics

/-- The record of a key, or a new one under the given name. -/
def recordOf (m : Metrics) (key : MetricKey) (name : String) : Record Int :=
  (m.get? key).getD (.new key name)

def observe (m : Metrics) (o : Observation) : Metrics :=
  m.put o.key ((m.recordOf o.key o.name).note o)

/-- The records after a recording. A span whose duration is refused leaves its record
without the execution. -/
def tell (m : Metrics) : Recording → Metrics
  | .span key duration name =>
    match duration.toWhole with
    | .ok d => m.observe ⟨key, name, some d⟩
    | .error _ => m.put key (m.recordOf key name)
  | r => r.observations.foldl observe m

def tally (rs : List Recording) : Metrics := rs.foldl tell .empty

theorem tally_append_singleton (rs : List Recording) (r : Recording) :
    tally (rs ++ [r]) = (tally rs).tell r := by
  simp [tally]

/-- Each record is filed under its own key. -/
def OwnKeys (m : Metrics) : Prop := ∀ key r, m.get? key = some r → r.key = key

section Keys

variable {m : Metrics}

theorem key_recordOf (h : OwnKeys m) (key : MetricKey) (name : String) :
    (m.recordOf key name).key = key := by
  unfold recordOf
  cases hr : m.get? key with
  | none => rfl
  | some r => exact h key r hr

theorem ownKeys_empty : OwnKeys .empty := by
  intro key r h
  rw [Catalog.get?_empty] at h
  cases h

theorem OwnKeys.put (h : OwnKeys m) {key : MetricKey} {r : Record Int} (hr : r.key = key) :
    OwnKeys (m.put key r) := by
  intro other r' hget
  rw [Catalog.get?_put] at hget
  split at hget
  · next heq => rw [← Option.some.inj hget, hr, heq]
  · exact h other r' hget

theorem OwnKeys.observe (h : OwnKeys m) (o : Observation) : OwnKeys (m.observe o) :=
  h.put (by rw [Record.key_note, key_recordOf h])

theorem OwnKeys.observeAll (h : OwnKeys m) (os : List Observation) :
    OwnKeys (os.foldl Metrics.observe m) := by
  induction os generalizing m with
  | nil => exact h
  | cons o os ih => exact ih (h.observe o)

theorem OwnKeys.tell (h : OwnKeys m) (r : Recording) : OwnKeys (m.tell r) := by
  cases r with
  | span key duration name =>
    rw [Metrics.tell]
    split
    · exact h.observe _
    · exact h.put (key_recordOf h key name)
  | occurrence key name => exact h.observeAll _
  | close now handle key name => exact h.observeAll _
  | replay entries => exact h.observeAll _

theorem OwnKeys.map_key_values (h : OwnKeys m) : m.values.map Record.key = m.keys := by
  rw [Catalog.values, Catalog.keys, List.map_map]
  refine List.map_congr_left fun e he => ?_
  exact h e.1 e.2 (Catalog.lookup_of_mem m.nodup he)

theorem ownKeys_tally (rs : List Recording) : OwnKeys (tally rs) := by
  induction rs using List.reverseRecOn with
  | nil => intro key r hr; cases hr
  | append_singleton rs r ih => rw [tally_append_singleton]; exact ih.tell r

end Keys

section Counts

/-- No record counts less than nothing. -/
def Counted (m : Metrics) : Prop := ∀ r ∈ m.values, 0 ≤ r.count

variable {m : Metrics}

theorem Counted.recordOf (h : Counted m) (key : MetricKey) (name : String) :
    0 ≤ (m.recordOf key name).count := by
  unfold Metrics.recordOf
  cases hr : m.get? key with
  | none => exact Int.le_refl 0
  | some r => exact h r (Catalog.mem_values_of_get? hr)

theorem Counted.put (h : Counted m) (key : MetricKey) {r : Record Int} (hr : 0 ≤ r.count) :
    Counted (m.put key r) := by
  intro other hother
  rcases Catalog.mem_values_put hother with rfl | hother
  · exact hr
  · exact h other hother

theorem Counted.observe (h : Counted m) (o : Observation) : Counted (m.observe o) := by
  have hcount : 0 ≤ (m.recordOf o.key o.name).count := h.recordOf o.key o.name
  exact h.put o.key (by rw [Record.count_note]; omega)

theorem Counted.observeAll (h : Counted m) (os : List Observation) :
    Counted (os.foldl Metrics.observe m) := by
  induction os generalizing m with
  | nil => exact h
  | cons o os ih => exact ih (h.observe o)

theorem Counted.tell (h : Counted m) (r : Recording) : Counted (m.tell r) := by
  cases r with
  | span key duration name =>
    rw [Metrics.tell]
    split
    · exact h.observe _
    · exact h.put key (h.recordOf key name)
  | occurrence key name => exact h.observeAll _
  | close now handle key name => exact h.observeAll _
  | replay entries => exact h.observeAll _

theorem counted_tally (rs : List Recording) : Counted (tally rs) := by
  induction rs using List.reverseRecOn with
  | nil => exact nofun
  | append_singleton rs r ih => rw [tally_append_singleton]; exact ih.tell r

end Counts

theorem tell_of_whole (m : Metrics) {r : Recording} (h : r.whole = true) :
    m.tell r = r.observations.foldl observe m := by
  cases r with
  | span key duration name =>
    cases hd : duration.toWhole with
    | error f => simp [Recording.whole, hd, Except.isOk, Except.toBool] at h
    | ok d => simp [tell, Recording.observations, hd]
  | _ => rfl

section Digest

/-- Entries that are the digest of some observations stay so with one more. -/
theorem entries_observe {m : Metrics} {os : List Observation} (h : m.entries = digest os)
    (o : Observation) : (m.observe o).entries = digest (os ++ [o]) := by
  have hkeys : (keys os).Nodup := by
    rw [← map_fst_digest, ← h]
    exact m.nodup
  rw [digest_append_singleton _ _ hkeys, summary_note, observe, recordOf, Catalog.get?, h,
    lookup_digest]
  simp only [Catalog.put, h, ofKey_eq_nil_iff]
  split <;> simp

theorem entries_observeAll {m : Metrics} {os : List Observation} (h : m.entries = digest os)
    (more : List Observation) : (more.foldl observe m).entries = digest (os ++ more) := by
  induction more generalizing m os with
  | nil => simpa using h
  | cons o more ih => simpa using ih (entries_observe h o)

end Digest

end Metrics

namespace Aggregator

open Metrics

variable {a : Aggregator}

theorem record_of_idle (h : a.active = false) (r : Recording) : (a.record r).2 = a := by
  have hentry : ∀ o, a.replayEntry o = a := by
    intro o
    rw [replayEntry_eq, h]
    rfl
  cases r with
  | span key duration name => simp [record, recordSpan, h]
  | occurrence key name => exact hentry ⟨key, name, none⟩
  | close now handle key name =>
    cases handle with
    | none => rfl
    | some _ => exact hentry ⟨key, _, some _⟩
  | replay entries =>
    change a.replay entries = a
    induction entries with
    | nil => rfl
    | cons o entries ih => rw [replay, List.foldl_cons, hentry]; exact ih

theorem records_observe (h : a.active = true) (hkeys : OwnKeys a.records) (o : Observation) :
    (a.replayEntry o).records = a.records.observe o :=
  records_replayEntry h (hkeys o.key)

theorem records_replay (h : a.active = true) (hkeys : OwnKeys a.records) (os : List Observation) :
    (a.replay os).records = os.foldl Metrics.observe a.records := by
  induction os generalizing a with
  | nil => rfl
  | cons o os ih =>
    have hfirst := records_observe h hkeys o
    have hrest := ih (a := a.replayEntry o) (by rw [active_replayEntry, h])
      (by rw [hfirst]; exact hkeys.observe o)
    rw [hfirst] at hrest
    exact hrest

/-- An active aggregator files a new record before it looks at the duration. -/
theorem records_recordFor (h : a.active = true) (key : MetricKey) (name : String) :
    (a.recordFor key name).2.records = a.records.put key (a.records.recordOf key name) := by
  unfold recordFor Metrics.recordOf
  cases hr : a.records.get? key with
  | some r => exact (Catalog.put_of_get? hr).symm
  | none =>
    rw [if_pos h]
    rfl

theorem records_recordSpan_of_error (h : a.active = true) (key : MetricKey) {duration : Value}
    {f : Fault} (hd : duration.toWhole = .error f) (name : String) :
    (a.recordSpan key duration name).2.records =
      a.records.put key (a.records.recordOf key name) := by
  rw [← records_recordFor h key name, recordSpan, h]
  rcases a.recordFor key name with ⟨_ | r, b⟩
  · rfl
  · simp [hd]

theorem records_record (h : a.active = true) (hkeys : OwnKeys a.records) (r : Recording) :
    (a.record r).2.records = a.records.tell r := by
  by_cases hwhole : r.whole = true
  · rw [record_eq a hwhole, tell_of_whole _ hwhole]
    exact records_replay h hkeys r.observations
  · cases r with
    | span key duration name =>
      cases hd : duration.toWhole with
      | ok d => simp [Recording.whole, hd, Except.isOk, Except.toBool] at hwhole
      | error f =>
        simp only [record, Metrics.tell, hd]
        exact records_recordSpan_of_error h key hd name
    | _ => exact absurd rfl hwhole

end Aggregator
end ScriptProfiling
