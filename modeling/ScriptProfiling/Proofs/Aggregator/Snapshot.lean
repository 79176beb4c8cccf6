import ScriptProfiling.Proofs.Aggregator.Summary
import ScriptProfiling.Proofs.Aggregator.Window

/-!
# Snapshots and histories

After any program the records of an aggregator are the summary of the observations that
count, and nothing else. The invariant ties the aggregator to its history: a session
runs exactly when the history says so, and the entries are the digest of what counts.
-/
namespace ScriptProfiling

open Observation History

namespace Aggregator

/-- What happens to an aggregator when it is told one thing. -/
def happen (a : Aggregator) : Happening → Aggregator
  | .start now => (a.start now).value.2
  | .stop now => (a.stop now).value.2
  | .reset => a.reset.value.2
  | .observe o => a.replayEntry o

/-- A duration matters only by the whole number that it counts as. -/
theorem recordSpan_of_toWhole (a : Aggregator) (key : MetricKey) {duration : Value} {d : Int}
    (h : duration.toWhole = .ok d) (name : String) :
    a.recordSpan key duration name = (none, a.recordWhole key d name) := by
  have hd : (Value.int d).toWhole = .ok d := rfl
  unfold recordWhole recordSpan
  rw [h, hd]
  split
  · rfl
  · split <;> rfl

/-- A recording without a fault is the replay of what it tells. -/
theorem record_eq (a : Aggregator) {r : Recording} (h : r.whole = true) :
    a.record r = (none, a.replay r.observations) := by
  cases r with
  | span key duration name =>
    cases hd : duration.toWhole with
    | error f => simp [Recording.whole, hd, Except.isOk, Except.toBool] at h
    | ok d =>
      rw [record, recordSpan_of_toWhole a key hd]
      simp [Recording.observations, hd, replay, replayEntry]
  | occurrence key name => rfl
  | close now handle key name => cases handle <;> rfl
  | replay entries => rfl

theorem perform_eq (a : Aggregator) {op : Operation} (h : op.whole = true) :
    a.perform op = (none, op.happenings.foldl happen a) := by
  cases op with
  | record r =>
    rw [perform, record_eq a h, Operation.happenings, List.foldl_map]
    rfl
  | _ => rfl

theorem replayEntry_eq (a : Aggregator) (o : Observation) :
    a.replayEntry o =
      if a.active then
        match a.recordFor o.key o.name with
        | (some r, b) => b.update (r.note o)
        | (none, b) => b
      else a := by
  obtain ⟨key, name, duration⟩ := o
  cases duration with
  | none =>
    simp only [replayEntry, recordOccurrence, Record.note]
    cases a.active with
    | false => rfl
    | true => rcases a.recordFor key name with ⟨_ | r, b⟩ <;> rfl
  | some d =>
    simp only [replayEntry, recordWhole, recordSpan, Record.note, Value.toWhole]
    cases a.active with
    | false => rfl
    | true => rcases a.recordFor key name with ⟨_ | r, b⟩ <;> rfl

theorem recordFor_of_active {a : Aggregator} (h : a.active = true) (key : MetricKey)
    (name : String) :
    ∃ b : Aggregator, a.recordFor key name = (some ((a.records.get? key).getD (.new key name)), b) ∧
      ∀ r, b.records.put key r = a.records.put key r := by
  unfold recordFor
  cases hr : a.records.get? key with
  | some r => exact ⟨a, rfl, fun _ => rfl⟩
  | none =>
    rw [if_pos h]
    exact ⟨_, rfl, fun r => Catalog.put_put a.records key _ r⟩

theorem records_replayEntry {a : Aggregator} (h : a.active = true) {o : Observation}
    (hkey : ∀ r, a.records.get? o.key = some r → r.key = o.key) :
    (a.replayEntry o).records =
      a.records.put o.key (((a.records.get? o.key).getD (.new o.key o.name)).note o) := by
  obtain ⟨b, hb, hput⟩ := recordFor_of_active h o.key o.name
  have hk : ((a.records.get? o.key).getD (.new o.key o.name)).key = o.key := by
    cases hr : a.records.get? o.key with
    | none => rfl
    | some r => exact hkey r hr
  rw [replayEntry_eq, if_pos h, hb]
  simp only [update, Record.key_note, hk, hput]

/-- The aggregator is as its history says: it is active when a session runs, and its
entries are the digest of the observations that count. -/
structure Tracks (a : Aggregator) (past : List Happening) : Prop where
  active : a.active = running past
  entries : a.records.entries = digest (accepted past)

namespace Tracks

variable {a : Aggregator} {past : List Happening}

theorem fresh : Tracks .fresh [] := ⟨rfl, rfl⟩

theorem keys_nodup (h : Tracks a past) : (keys (accepted past)).Nodup := by
  rw [← map_fst_digest, ← h.entries]
  exact a.records.nodup

theorem get? (h : Tracks a past) (key : MetricKey) :
    a.records.get? key =
      if key ∈ keys (accepted past) then some (summary key (ofKey key (accepted past)))
      else none := by
  rw [Catalog.get?, h.entries, lookup_digest]

theorem key_of_get? (h : Tracks a past) {key : MetricKey} {r : Record Int}
    (hr : a.records.get? key = some r) : r.key = key := by
  rw [h.get?] at hr
  split at hr
  · rw [← Option.some.inj hr, summary]
  · cases hr

theorem observe (h : Tracks a past) (o : Observation) :
    Tracks (a.replayEntry o) (past ++ [.observe o]) := by
  have hrun : running (past ++ [.observe o]) = running past := running_append_singleton _ _
  constructor
  · rw [active_replayEntry, hrun, h.active]
  · cases ha : a.active with
    | false =>
      rw [replayEntry_eq, ha, accepted_observe, ← h.active, ha]
      exact h.entries
    | true =>
      rw [records_replayEntry ha (fun _ => h.key_of_get?), accepted_observe, ← h.active, ha,
        if_pos rfl,
        digest_append_singleton _ _ h.keys_nodup, h.get?, summary_note]
      simp only [Catalog.put, h.entries, ofKey_eq_nil_iff]
      split <;> simp

theorem start (h : Tracks a past) (now : Binary64) :
    Tracks (a.start now).value.2 (past ++ [.start now]) := by
  constructor
  · rw [active_start, running_append_singleton]
    rfl
  · rw [accepted_start, ← h.entries]
    unfold Aggregator.start
    split <;> rfl

theorem stop (h : Tracks a past) (now : Binary64) :
    Tracks (a.stop now).value.2 (past ++ [.stop now]) := by
  constructor
  · rw [active_stop, running_append_singleton]
    rfl
  · rw [accepted_stop, ← h.entries]
    unfold Aggregator.stop
    split <;> rfl

theorem reset (h : Tracks a past) : Tracks a.reset.value.2 (past ++ [.reset]) := by
  constructor
  · rw [active_reset, running_append_singleton]
    exact h.active
  · rw [accepted_reset, ← h.active]
    unfold Aggregator.reset
    cases a.active with
    | true => exact h.entries
    | false => rfl

theorem happen (h : Tracks a past) (e : Happening) : Tracks (a.happen e) (past ++ [e]) := by
  cases e with
  | start now => exact h.start now
  | stop now => exact h.stop now
  | reset => exact h.reset
  | observe o => exact h.observe o

theorem happenings (h : Tracks a past) (es : List Happening) :
    Tracks (es.foldl Aggregator.happen a) (past ++ es) := by
  induction es generalizing a past with
  | nil => simpa using h
  | cons e es ih => simpa using ih (h.happen e)

end Tracks

theorem tracks_history (p : Program) (h : p.whole = true) : Tracks p.aggregator p.history := by
  have hagree : Program.Agree Tracks (p.run perform ⟨.fresh, []⟩)
      (p.run (fun past op => (none, past ++ op.happenings)) ⟨[], []⟩) := by
    refine Program.run_agree ?_ p h ⟨fresh, []⟩ ⟨[], []⟩ rfl Tracks.fresh
    intro a past op hop htracks
    rw [perform_eq a hop]
    exact ⟨rfl, htracks.happenings op.happenings⟩
  exact hagree.2.2

theorem get?_replay_of_ne {a : Aggregator} {past : List Happening} (h : Tracks a past)
    {key : MetricKey} {os : List Observation} (hos : ∀ o ∈ os, o.key ≠ key) :
    (a.replay os).records.get? key = a.records.get? key := by
  induction os generalizing a past with
  | nil => rfl
  | cons o os ih =>
    obtain ⟨ho, hos⟩ := List.forall_mem_cons.mp hos
    have hfirst : (a.replayEntry o).records.get? key = a.records.get? key := by
      cases ha : a.active with
      | false => rw [replayEntry_eq, ha, if_neg Bool.false_ne_true]
      | true =>
        rw [records_replayEntry ha (fun _ => h.key_of_get?), Catalog.get?_put, if_neg ho]
    exact (ih (h.observe o) hos).trans hfirst

/-- What a snapshot shows after any program: the keys of the observations that count, in
the order of first observation, each with the summary of its own observations. Telling
of other keys changes nothing in it. -/
theorem snapshot_aggregator (p : Program) (h : p.whole = true) :
    p.aggregator.snapshot.keys = keys (accepted p.history) ∧
    (∀ key, p.aggregator.snapshot.get? key =
      if ∃ o ∈ accepted p.history, o.key = key then
        some (summary key (ofKey key (accepted p.history)))
      else none) ∧
    ∀ key (r : Recording), r.whole = true → (∀ o ∈ r.observations, o.key ≠ key) →
      (p.aggregator.record r).2.snapshot.get? key = p.aggregator.snapshot.get? key := by
  have htracks := tracks_history p h
  refine ⟨?_, ?_, ?_⟩
  · rw [← map_fst_digest, ← htracks.entries]
    rfl
  · intro key
    simpa only [snapshot, mem_keys] using htracks.get? key
  · intro key r hr hne
    rw [record_eq _ hr]
    exact get?_replay_of_ne htracks hne

/-- A block that fails in the middle of an open span, a reset that is refused, an
execution that comes too late, and a second session. -/
def troubledDay : Program :=
  let join : MetricKey := ⟨"shop.sk", 1, "event"⟩
  let loop : MetricKey := ⟨"shop.sk", 2, "loop"⟩
  .perform (.start (.zero false)) <| .begin 0 5 "on join" <|
  .attempt (.within 1 10 loop "" (.perform (.record (.occurrence loop "each")) (.fail .notANumber))
    40 .done) <|
  .finish 0 25 join "" <| .perform .reset <| .finish 0 12 join "again" <|
  .perform (.stop (.zero false)) <| .perform (.record (.span join (.int 90) "late")) <|
  .perform (.start (.zero false)) <|
  .perform (.record (.replay [⟨join, "traced", some (-3)⟩, ⟨loop, "", none⟩])) .done

theorem snapshot_troubledDay :
    troubledDay.whole = true ∧
    troubledDay.aggregator.snapshot.keys = [⟨"shop.sk", 2, "loop"⟩, ⟨"shop.sk", 1, "event"⟩] ∧
    troubledDay.aggregator.snapshot.get? ⟨"shop.sk", 1, "event"⟩ =
      some ⟨⟨"shop.sk", 1, "event"⟩, "on join", 3, 24, 20, some 7⟩ := by
  have hwhole : troubledDay.whole = true := by decide
  obtain ⟨hkeys, hget, -⟩ := snapshot_aggregator troubledDay hwhole
  refine ⟨hwhole, ?_, ?_⟩
  · rw [hkeys]
    decide
  · rw [hget]
    decide

end Aggregator
end ScriptProfiling
