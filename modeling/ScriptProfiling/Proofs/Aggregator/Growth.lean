import ScriptProfiling.Proofs.Aggregator.Tally

/-!
# Records grow

Whatever an aggregator is told, a record that it has keeps its place among the records and its
key, counts at least as much as before and remembers an execution at least as long. Only a
reset takes records away, and new records come after the old ones.
-/
namespace ScriptProfiling

namespace Record

/-- The second record has the key of the first and has seen no less. -/
structure AtMost (r r' : Record Int) : Prop where
  key : r'.key = r.key
  count : r.count ≤ r'.count
  longest : r.longest ≤ r'.longest

namespace AtMost

theorem refl (r : Record Int) : AtMost r r := ⟨rfl, Int.le_refl _, Int.le_refl _⟩

theorem trans {r r' r'' : Record Int} (h : AtMost r r') (h' : AtMost r' r'') : AtMost r r'' :=
  ⟨h'.key.trans h.key, h.count.trans h'.count, h.longest.trans h'.longest⟩

/-- Also a duration that is zero or negative takes nothing away. -/
theorem note (r : Record Int) (o : Observation) : AtMost r (r.note o) := by
  refine ⟨key_note r o, ?_, ?_⟩
  · rw [count_note]
    omega
  · cases hd : o.duration with
    | none =>
      rw [Observation.note_untimed r hd]
    | some d =>
      rw [Observation.note_timed r hd]
      dsimp only
      split
      · exact Int.le_max_left _ _
      · exact Int.le_refl _

end AtMost

end Record

namespace Metrics

/-- Each record keeps its place and has seen no less. -/
def Grows (m m' : Metrics) : Prop :=
  ∀ (i : Nat) (r : Record Int), m.values[i]? = some r → ∃ r', m'.values[i]? = some r' ∧ r.AtMost r'

namespace Grows

theorem refl (m : Metrics) : Grows m m := fun _ r hr => ⟨r, hr, .refl r⟩

theorem trans {m m' m'' : Metrics} (h : Grows m m') (h' : Grows m' m'') : Grows m m'' := by
  intro i r hr
  obtain ⟨r', hr', hle⟩ := h i r hr
  obtain ⟨r'', hr'', hle'⟩ := h' i r' hr'
  exact ⟨r'', hr'', hle.trans hle'⟩

theorem put {m : Metrics} {key : MetricKey} {r : Record Int}
    (h : ∀ r', m.get? key = some r' → r'.AtMost r) : Grows m (m.put key r) :=
  fun _ _ hr => Catalog.getElem?_values_put Record.AtMost.refl h hr

theorem observe (m : Metrics) (o : Observation) : Grows m (m.observe o) := by
  refine put fun r hr => ?_
  rw [recordOf, hr]
  exact .note r o

theorem observeAll (m : Metrics) (os : List Observation) :
    Grows m (os.foldl Metrics.observe m) := by
  induction os generalizing m with
  | nil => exact refl m
  | cons o os ih => exact (observe m o).trans (ih (m.observe o))

theorem tell (m : Metrics) (r : Recording) : Grows m (m.tell r) := by
  cases r with
  | span key duration name =>
    rw [Metrics.tell]
    split
    · exact observe m _
    · refine put fun r hr => ?_
      rw [recordOf, hr]
      exact .refl r
  | occurrence key name => exact observeAll m _
  | close now handle key name => exact observeAll m _
  | replay entries => exact observeAll m _

end Grows
end Metrics

namespace Aggregator

variable {a : Aggregator}

theorem ownKeys_record (h : Metrics.OwnKeys a.records) (r : Recording) :
    Metrics.OwnKeys (a.record r).2.records := by
  cases ha : a.active with
  | true =>
    rw [records_record ha h]
    exact h.tell r
  | false =>
    rw [record_of_idle ha]
    exact h

theorem grows_record (h : Metrics.OwnKeys a.records) (r : Recording) :
    a.records.Grows (a.record r).2.records := by
  cases ha : a.active with
  | true =>
    rw [records_record ha h]
    exact .tell a.records r
  | false =>
    rw [record_of_idle ha]
    exact .refl a.records

theorem records_start (now : Binary64) : (a.start now).value.2.records = a.records := by
  unfold start
  split <;> rfl

theorem records_stop (now : Binary64) : (a.stop now).value.2.records = a.records := by
  unfold stop
  split <;> rfl

theorem ownKeys_perform (h : Metrics.OwnKeys a.records) (op : Operation) :
    Metrics.OwnKeys (a.perform op).2.records := by
  cases op with
  | start now =>
    rw [perform, records_start]
    exact h
  | stop now =>
    rw [perform, records_stop]
    exact h
  | reset =>
    rw [perform, reset]
    split
    · exact h
    · exact Metrics.ownKeys_empty
  | record r => exact ownKeys_record h r

/-- Whether an operation is a reset that is not refused. -/
def clears (a : Aggregator) : Operation → Bool
  | .reset => !a.active
  | _ => false

theorem grows_perform (h : Metrics.OwnKeys a.records) {op : Operation} (hop : a.clears op = false) :
    a.records.Grows (a.perform op).2.records := by
  cases op with
  | start now =>
    rw [perform, records_start]
    exact .refl a.records
  | stop now =>
    rw [perform, records_stop]
    exact .refl a.records
  | reset =>
    have hactive : a.active = true := by simpa [clears] using hop
    rw [perform, reset, if_pos hactive]
    exact .refl a.records
  | record r => exact grows_record h r

/-- An aggregator after some operations. -/
def operate (a : Aggregator) (ops : List Operation) : Aggregator :=
  ops.foldl (fun a op => (a.perform op).2) a

theorem ownKeys_operate (h : Metrics.OwnKeys a.records) (ops : List Operation) :
    Metrics.OwnKeys (a.operate ops).records := by
  induction ops generalizing a with
  | nil => exact h
  | cons op ops ih => exact ih (ownKeys_perform h op)

theorem grows_operate (h : Metrics.OwnKeys a.records) {ops : List Operation}
    (hops : ∀ op ∈ ops, op ≠ .reset) : a.records.Grows (a.operate ops).records := by
  induction ops generalizing a with
  | nil => exact .refl a.records
  | cons op ops ih =>
    obtain ⟨hop, hops⟩ := List.forall_mem_cons.mp hops
    have hkept : a.clears op = false := by
      cases op with
      | reset => exact absurd rfl hop
      | _ => rfl
    exact (grows_perform h hkept).trans (ih (ownKeys_perform h op) hops)

end Aggregator

/-- The keys that are told of, in turn, also that of a span whose duration is refused. -/
def Recording.keys : Recording → List MetricKey
  | .span key _ _ => [key]
  | r => r.observations.map (·.key)

namespace Metrics

variable {m : Metrics} {sighted : List MetricKey}

theorem keys_put_sighted (h : m.keys = sighted.eraseDups) (key : MetricKey) (r : Record Int) :
    (m.put key r).keys = (sighted ++ [key]).eraseDups := by
  rw [Catalog.keys_put, h, List.eraseDups_append]
  by_cases hkey : key ∈ sighted
  · simp [List.removeAll, hkey]
  · simp [List.removeAll, hkey, List.eraseDups_cons]

theorem keys_observeAll (h : m.keys = sighted.eraseDups) (os : List Observation) :
    (os.foldl Metrics.observe m).keys = (sighted ++ os.map (·.key)).eraseDups := by
  induction os generalizing m sighted with
  | nil => simpa using h
  | cons o os ih =>
    have hfirst : (m.observe o).keys = (sighted ++ [o.key]).eraseDups := keys_put_sighted h o.key _
    rw [List.foldl_cons, ih hfirst, List.append_assoc, List.singleton_append, List.map_cons]

theorem keys_tell (h : m.keys = sighted.eraseDups) (r : Recording) :
    (m.tell r).keys = (sighted ++ r.keys).eraseDups := by
  cases r with
  | span key duration name =>
    rw [tell]
    split <;> exact keys_put_sighted h key _
  | _ => exact keys_observeAll h _

end Metrics

namespace Aggregator

variable {a : Aggregator} {sighted : List MetricKey}

/-- The keys that have been told of after an operation, since the last reset in force. -/
def sight (a : Aggregator) (sighted : List MetricKey) : Operation → List MetricKey
  | .start _ | .stop _ => sighted
  | .reset => if a.active then sighted else []
  | .record r => if a.active then sighted ++ r.keys else sighted

def sightAll (a : Aggregator) (sighted : List MetricKey) : List Operation → List MetricKey
  | [] => sighted
  | op :: ops => (a.perform op).2.sightAll (a.sight sighted op) ops

theorem keys_perform (hkeys : Metrics.OwnKeys a.records) (h : a.records.keys = sighted.eraseDups)
    (op : Operation) : (a.perform op).2.records.keys = (a.sight sighted op).eraseDups := by
  cases op with
  | start now => rw [perform, records_start, sight, h]
  | stop now => rw [perform, records_stop, sight, h]
  | reset =>
    rw [perform, reset, sight]
    split
    · exact h
    · rfl
  | record r =>
    rw [perform, sight]
    cases ha : a.active with
    | true =>
      rw [records_record ha hkeys, if_pos rfl]
      exact Metrics.keys_tell h r
    | false =>
      rw [record_of_idle ha]
      exact h

theorem keys_operate (hkeys : Metrics.OwnKeys a.records) (h : a.records.keys = sighted.eraseDups)
    (ops : List Operation) :
    (a.operate ops).records.keys = (a.sightAll sighted ops).eraseDups := by
  induction ops generalizing a sighted with
  | nil => exact h
  | cons op ops ih => exact ih (ownKeys_perform hkeys op) (keys_perform hkeys h op)

end Aggregator
end ScriptProfiling
