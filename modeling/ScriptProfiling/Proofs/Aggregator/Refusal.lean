import ScriptProfiling.Proofs.Aggregator.Tally

/-!
# Refused durations

A duration that is no whole number is refused, but only after the record of its key has been
looked up. What the refusal leaves behind is an empty record of a key that had none; no record
that is there already shows that anything happened. A record that is told of a duration by
itself counts the execution before it adds the duration, and keeps the count if it cannot.
-/
namespace ScriptProfiling

/-- An execution whose duration cannot be added has been counted all the same. -/
theorem Record.addValue_of_fault {r : Record Number} {v : Value} {f : Fault}
    (h : (r.addValue v).2 = some f) : (r.addValue v).1 = r.occurrence := by
  unfold addValue at h ⊢
  cases hd : v.number? with
  | none => rfl
  | some d =>
    rw [hd] at h
    dsimp only [add] at h ⊢
    cases hsum : Measure.add r.total d with
    | error e => rfl
    | ok total =>
      rw [hsum] at h
      cases h

namespace Aggregator

/-- All that is left behind is a record of the key without executions, if the key had none. -/
structure LeavesEmpty (key : MetricKey) (name : String) (a b : Aggregator) : Prop where
  window : b.window = a.window
  kept : ∀ k r, a.snapshot.get? k = some r → b.snapshot.get? k = some r
  entries : b.snapshot.entries = a.snapshot.entries ++
    if key ∈ a.snapshot.keys then [] else [(key, .new key name)]
  unchanged_iff : b = a ↔ key ∈ a.snapshot.keys

/-- Closes a span for which the clocks have told any duration. -/
def closeWith (a : Aggregator) (handle : Option SpanHandle) (elapsed : Value) (key : MetricKey)
    (name : String) : Option Fault × Aggregator :=
  match handle with
  | none => (none, a)
  | some h => a.recordSpan key elapsed (if name.isEmpty then h.identifier else name)

section Refusal

variable (a : Aggregator) (key : MetricKey) (name : String)

/-- Clocks that count whole nanoseconds make no fault. -/
theorem closeWith_int (now : Int) (h : SpanHandle) :
    a.closeWith (some h) (.int (now - h.started)) key name =
      (none, a.endSpan now (some h) key name) :=
  have hwhole : (Value.int (now - h.started)).toWhole = .ok (now - h.started) := rfl
  a.recordSpan_of_toWhole key hwhole _

theorem recordSpan_fault (duration : Value) (f : Fault) :
    (a.recordSpan key duration name).1 = some f ↔
      a.active = true ∧ duration.toWhole = .error f := by
  rw [recordSpan]
  cases ha : a.active with
  | false => simp
  | true =>
    obtain ⟨b, hb, -⟩ := recordFor_of_active ha key name
    rw [hb]
    cases duration.toWhole <;> simp

theorem entries_recordFor (h : a.active = true) :
    (a.recordFor key name).2.records.entries = a.records.entries ++
      if key ∈ a.records.keys then [] else [(key, .new key name)] := by
  rw [records_recordFor h, Metrics.recordOf]
  split
  · next hkey =>
    obtain ⟨r, hr⟩ := Catalog.mem_keys_iff.mp hkey
    rw [hr, Option.getD_some, Catalog.put_of_get? hr, List.append_nil]
  · next hkey =>
    rw [Catalog.get?_eq_none_iff.mpr hkey]
    exact Catalog.fileIn_of_notMem hkey

variable {a key name}

theorem leavesEmpty_of_fault {duration : Value} {f : Fault}
    (h : (a.recordSpan key duration name).1 = some f) :
    LeavesEmpty key name a (a.recordSpan key duration name).2 := by
  obtain ⟨ha, hd⟩ := (recordSpan_fault a key name duration f).mp h
  have hrecords := records_recordSpan_of_error ha key hd name
  have hentries : (a.recordSpan key duration name).2.records.entries = a.records.entries ++
      if key ∈ a.records.keys then [] else [(key, .new key name)] := by
    rw [hrecords, ← records_recordFor ha, entries_recordFor a key name ha]
  have hwindow := window_recordSpan a key name duration
  refine ⟨hwindow, ?_, hentries, ?_⟩
  · intro k r hr
    rw [snapshot, hrecords, Catalog.get?_put]
    split
    · next hk =>
      obtain rfl := hk
      rw [Metrics.recordOf, show a.records.get? key = some r from hr, Option.getD_some]
    · exact hr
  · change _ ↔ key ∈ a.records.keys
    constructor
    · intro hsame
      by_contra hkey
      rw [hsame, if_neg hkey] at hentries
      exact List.cons_ne_nil _ _ (List.self_eq_append_right.mp hentries)
    · intro hkey
      rw [if_pos hkey, List.append_nil] at hentries
      have hmetrics : (a.recordSpan key duration name).2.records = a.records :=
        Catalog.ext hentries
      calc (a.recordSpan key duration name).2
          = ⟨(a.recordSpan key duration name).2.window,
              (a.recordSpan key duration name).2.records⟩ := rfl
        _ = a := by rw [hwindow, hmetrics]

end Refusal

/-- Telling an aggregator of an execution fails exactly if it is active and the duration is no
whole number. Then no session time and no record that is there changes. If the key had a record
already nothing changes at all, else an empty record of it is left at the end. The same holds
where a span is closed, which cannot fail where the clocks count whole nanoseconds. A record by
itself fails with the execution counted and nothing else changed, so that its count and its total no
longer belong together. -/
theorem recording_refused (a : Aggregator) (key : MetricKey) (name : String) (duration : Value)
    (f : Fault) :
    ((a.recordSpan key duration name).1 = some f ↔
      a.active = true ∧ duration.toWhole = .error f) ∧
    ((a.recordSpan key duration name).1 = some f →
      LeavesEmpty key name a (a.recordSpan key duration name).2) ∧
    (∀ h : SpanHandle, (a.closeWith (some h) duration key name).1 = some f →
      LeavesEmpty key (if name.isEmpty then h.identifier else name) a
        (a.closeWith (some h) duration key name).2) ∧
    (∀ (h : SpanHandle) now, a.closeWith (some h) (.int (now - h.started)) key name =
      (none, a.endSpan now (some h) key name)) ∧
    ∀ r : Record Number, (r.addValue duration).2 = some f →
      (r.addValue duration).1 = { r with count := r.count + 1 } :=
  ⟨recordSpan_fault a key name duration f, leavesEmpty_of_fault,
    fun _ hfault => leavesEmpty_of_fault hfault, fun h now => closeWith_int a key name now h,
    fun _ hfault => Record.addValue_of_fault hfault⟩

/-- A session in which one element has been executed. -/
def openDay : Aggregator :=
  (fresh.start (.zero false)).value.2.recordWhole ⟨"shop.sk", 1, "event"⟩ 5 "on join"

/-- No duration at all is told of an element that is new, and of one that is known. -/
theorem recording_refused_openDay :
    let new : MetricKey := ⟨"shop.sk", 4, "loop"⟩
    let known : MetricKey := ⟨"shop.sk", 1, "event"⟩
    let alone : Record Number := ⟨known, "on join", 1, .int 5, .int 5, some (.int 5)⟩
    (openDay.recordSpan new .null "each").1 = some (.wholeFrom "NoneType") ∧
    (openDay.recordSpan new .null "each").2.snapshot.keys = [known, new] ∧
    (openDay.recordSpan known .null "late").1 = some (.wholeFrom "NoneType") ∧
    (openDay.recordSpan known .null "late").2 = openDay ∧
    (openDay.closeWith (some ⟨"on join", 5⟩) .null known "late").2 = openDay ∧
    (alone.addValue .null).2 = some (.notAddable "int" "NoneType") ∧
    (alone.addValue .null).1 = ⟨known, "on join", 2, .int 5, .int 5, some (.int 5)⟩ := by
  intro new known alone
  have hrefused : openDay.active = true ∧ Value.toWhole .null = .error (.wholeFrom "NoneType") :=
    ⟨rfl, rfl⟩
  have hkeys : openDay.snapshot.keys = [known] := by decide
  have hmem : known ∈ openDay.snapshot.keys := by simp [hkeys]
  obtain ⟨hnew, hadded, -, -⟩ :=
    recording_refused openDay new "each" .null (.wholeFrom "NoneType")
  obtain ⟨hknown, hkept, hclosed, -⟩ :=
    recording_refused openDay known "late" .null (.wholeFrom "NoneType")
  obtain ⟨-, -, -, -, halone⟩ :=
    recording_refused openDay known "late" .null (.notAddable "int" "NoneType")
  refine ⟨hnew.mpr hrefused, ?_, hknown.mpr hrefused,
    (hkept (hknown.mpr hrefused)).unchanged_iff.mpr hmem,
    (hclosed ⟨"on join", 5⟩ (hknown.mpr hrefused)).unchanged_iff.mpr hmem, rfl, halone alone rfl⟩
  have hentries := (hadded (hnew.mpr hrefused)).entries
  rw [Catalog.keys, hentries, List.map_append]
  decide

end Aggregator
end ScriptProfiling
