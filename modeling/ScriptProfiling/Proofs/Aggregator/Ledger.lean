import ScriptProfiling.Proofs.Aggregator.Writers

/-!
# What writers enter

A ledger tells which writers have looked up their records since the last reset in force, and what
those have entered. Whatever steps come in what order, the records that can be looked up add up
what the ledger has of their keys: a current writer holds the record of its key, and any other
writer holds one that nobody finds any more.
-/
namespace ScriptProfiling

theorem Record.key_enterAll (r : Record Int) (es : List Execution) :
    (es.foldl enter r).key = r.key := by
  induction es generalizing r with
  | nil => rfl
  | cons e es ih => rw [List.foldl_cons, ih, key_enter]

def Execution.ofKey (key : MetricKey) (es : List Execution) : List Execution :=
  es.filter (·.key = key)

theorem Execution.ofKey_append_singleton (key : MetricKey) (es : List Execution) (e : Execution) :
    ofKey key (es ++ [e]) = if e.key = key then ofKey key es ++ [e] else ofKey key es := by
  by_cases h : e.key = key <;> simp [ofKey, h]

namespace Store

variable {s : Store} {entered : List Execution}

/-- The records that can be looked up add up these executions, each under its key. -/
structure Shows (s : Store) (entered : List Execution) : Prop where
  filed : ∀ key place, s.places.get? key = some place → ∃ name,
    s.kept[place]? = some ((Execution.ofKey key entered).foldl Record.enter (.new key name))
  covered : ∀ e ∈ entered, e.key ∈ s.places.keys

/-- What a writer holds is kept. It is the record of its key if the writer is current, else one
that nobody can look up any more. -/
def Holds (s : Store) (current : Bool) : Phase → Prop
  | .holding e place => place < s.kept.length ∧
    if current then s.places.get? e.key = some place else ∀ key, s.places.get? key ≠ some place
  | _ => True

namespace Shows

theorem nothing (h : s.places = .empty) : s.Shows [] where
  filed key place hplace := by
    rw [h] at hplace
    cases hplace
  covered e he := by cases he

theorem sound (h : s.Shows entered) : s.Sound := by
  intro key place hplace
  obtain ⟨name, hr⟩ := h.filed key place hplace
  exact ⟨_, hr, Record.key_enterAll ..⟩

theorem keep (h : s.Shows entered) {key : MetricKey} (hnone : s.places.get? key = none)
    (name : String) : (s.keep key name).Shows entered where
  filed k place hplace := by
    rw [Store.keep, Catalog.get?_put] at hplace
    split at hplace
    · next hk =>
      obtain rfl := hk
      obtain rfl := Option.some.inj hplace
      have hnothing : Execution.ofKey key entered = [] := by
        refine List.filter_eq_nil_iff.mpr fun e he hkey => ?_
        have hmem := h.covered e he
        rw [of_decide_eq_true hkey] at hmem
        exact Catalog.get?_eq_none_iff.mp hnone hmem
      exact ⟨name, by rw [hnothing, getElem?_keep_length]; rfl⟩
    · obtain ⟨name', hr⟩ := h.filed k place hplace
      exact ⟨name', getElem?_keep hr key name⟩
  covered e he := by
    have hmem := h.covered e he
    rw [Store.keep, Catalog.keys_put]
    split
    · exact hmem
    · exact List.mem_append_left _ hmem

theorem enter (h : s.Shows entered) {e : Execution} {place : Nat}
    (hplace : s.places.get? e.key = some place) : (s.enter place e).Shows (entered ++ [e]) where
  filed key place' hplace' := by
    obtain ⟨name, hr⟩ := h.filed key place' hplace'
    refine ⟨name, ?_⟩
    rw [Store.enter, List.getElem?_modify, hr, Execution.ofKey_append_singleton]
    by_cases hkey : e.key = key
    · obtain rfl := hkey
      obtain rfl := Option.some.inj (hplace.symm.trans hplace')
      simp
    · have hne : place ≠ place' := by
        rintro rfl
        exact hkey (h.sound.place_injective hplace hplace')
      simp [hkey, hne]
  covered e' he' := by
    rcases List.mem_append.mp he' with he' | he'
    · exact h.covered e' he'
    · rw [List.mem_singleton.mp he']
      exact Catalog.mem_keys_of_get? hplace

theorem enter_dropped (h : s.Shows entered) {place : Nat}
    (hplace : ∀ key, s.places.get? key ≠ some place) (e : Execution) :
    (s.enter place e).Shows entered where
  filed key place' hplace' := by
    obtain ⟨name, hr⟩ := h.filed key place' hplace'
    have hne : place ≠ place' := by
      rintro rfl
      exact hplace key hplace'
    refine ⟨name, ?_⟩
    rw [Store.enter, List.getElem?_modify, hr]
    simp [hne]
  covered := h.covered

end Shows

namespace Holds

variable {current : Bool} {p : Phase}

theorem keep (h : s.Holds current p) {key : MetricKey} (hnone : s.places.get? key = none)
    (name : String) : (s.keep key name).Holds current p := by
  cases p with
  | holding e place =>
    obtain ⟨hlt, hplace⟩ := h
    refine ⟨by simp [Store.keep]; omega, ?_⟩
    cases current with
    | true =>
      have hne : key ≠ e.key := by
        rintro rfl
        cases hnone.symm.trans hplace
      simpa [Store.keep, hne] using hplace
    | false =>
      intro k hk
      rw [Store.keep, Catalog.get?_put] at hk
      split at hk
      · exact Nat.ne_of_gt hlt (Option.some.inj hk)
      · exact hplace k hk
  | _ => trivial

theorem enter (h : s.Holds current p) (place : Nat) (e : Execution) :
    (s.enter place e).Holds current p := by
  cases p with
  | holding e' place' =>
    obtain ⟨hlt, hplace⟩ := h
    exact ⟨by simpa [Store.enter] using hlt, hplace⟩
  | _ => trivial

/-- What is held when the places are forgotten cannot be looked up any more. -/
theorem drop (h : s.Holds current p) (window : Window) :
    Store.Holds { s with window := window, places := .empty } false p := by
  cases p with
  | holding e place =>
    refine ⟨h.1, fun key hplace => ?_⟩
    cases hplace
  | _ => trivial

theorem update {currents : Nat → Bool} {phases : Nat → Phase}
    (h : ∀ v, s.Holds (currents v) (phases v)) (w : Nat) (hw : s.Holds current p) (v : Nat) :
    s.Holds (Function.update currents w current v) (Function.update phases w p v) := by
  by_cases hv : v = w
  · obtain rfl := hv
    rwa [Function.update_self, Function.update_self]
  · rw [Function.update_of_ne hv, Function.update_of_ne hv]
    exact h v

end Holds
end Store

/-- What ought to show: which writers have looked their record up since the last reset in force,
and what has been entered since then by those that had. -/
structure Ledger where
  current : Nat → Bool
  entered : List Execution

def Ledger.empty : Ledger := ⟨fun _ => false, []⟩

namespace Crowd

variable {c : Crowd} {l : Ledger}

def note (c : Crowd) (l : Ledger) : Turn → Ledger
  | .reset => if c.aggregator.active then l else .empty
  | .find w =>
    match c.phase w with
    | .admitted _ => { l with current := Function.update l.current w true }
    | _ => l
  | .enter w =>
    match c.phase w with
    | .holding e _ => if l.current w then { l with entered := l.entered ++ [e] } else l
    | _ => l
  | _ => l

def ledger (c : Crowd) (l : Ledger) : List Turn → Ledger
  | [] => l
  | t :: ts => (c.step t).ledger (c.note l t) ts

/-- The ledger is right about the store and about every writer. -/
structure Kept (c : Crowd) (l : Ledger) : Prop where
  shows : c.store.Shows l.entered
  holds : ∀ w, c.store.Holds (l.current w) (c.phase w)

namespace Kept

theorem fresh : Kept .fresh .empty where
  shows := .nothing rfl
  holds _ := trivial

theorem reset (h : Kept c l) : Kept (c.step .reset) (c.note l .reset) := by
  rw [note]
  cases ha : c.aggregator.active with
  | true =>
    have hsame : c.step .reset = c := congrArg (Crowd.mk · c.phase) (if_pos ha)
    rw [hsame]
    exact h
  | false =>
    have hcleared :
        (c.step .reset).store = { c.store with window := .unopened, places := .empty } :=
      if_neg (by rw [← aggregator, ha]; decide)
    refine ⟨.nothing ?_, fun w => ?_⟩
    · rw [hcleared]
    · rw [hcleared]
      exact (h.holds w).drop .unopened

theorem check (h : Kept c l) (w : Nat) (e : Execution) : Kept (c.step (.check w e)) l := by
  rw [step]
  split
  · split
    · have hself : c.store.Holds (l.current w) (.admitted e) := trivial
      have hothers := Store.Holds.update h.holds w hself
      rw [Function.update_eq_self] at hothers
      exact ⟨h.shows, hothers⟩
    · exact h
  · exact h

theorem find (h : Kept c l) (w : Nat) : Kept (c.step (.find w)) (c.note l (.find w)) := by
  rw [step, note]
  cases hw : c.phase w with
  | admitted e =>
    dsimp only
    rcases c.store.recordFor_cases e.key e.name with
      ⟨place, hplace, hfor⟩ | ⟨hnone, -, hfor⟩ | ⟨-, -, hfor⟩ <;> rw [hfor]
    · obtain ⟨r, hr, -⟩ := h.shows.sound e.key place hplace
      obtain ⟨hlt, -⟩ := List.getElem?_eq_some_iff.mp hr
      have hself : c.store.Holds true (.holding e place) := ⟨hlt, hplace⟩
      exact ⟨h.shows, Store.Holds.update h.holds w hself⟩
    · have hself : (c.store.keep e.key e.name).Holds true (.holding e c.store.kept.length) := by
        simp [Store.Holds, Store.keep]
      exact ⟨h.shows.keep hnone e.name,
        Store.Holds.update (fun v => (h.holds v).keep hnone e.name) w hself⟩
    · have hself : c.store.Holds true .idle := trivial
      exact ⟨h.shows, Store.Holds.update h.holds w hself⟩
  | _ => exact h

theorem enter (h : Kept c l) (w : Nat) : Kept (c.step (.enter w)) (c.note l (.enter w)) := by
  rw [step, note]
  cases hw : c.phase w with
  | holding e place =>
    dsimp only
    have hself : (c.store.enter place e).Holds (l.current w) .idle := trivial
    have hothers := Store.Holds.update (fun v => (h.holds v).enter place e) w hself
    rw [Function.update_eq_self] at hothers
    have hheld := h.holds w
    rw [hw] at hheld
    obtain ⟨-, hplace⟩ := hheld
    cases hcurrent : l.current w with
    | true =>
      rw [hcurrent] at hplace
      exact ⟨h.shows.enter hplace, hothers⟩
    | false =>
      rw [hcurrent] at hplace
      exact ⟨h.shows.enter_dropped hplace e, hothers⟩
  | _ => exact h

theorem step (h : Kept c l) (t : Turn) : Kept (c.step t) (c.note l t) := by
  cases t with
  | start now => exact ⟨⟨h.shows.filed, h.shows.covered⟩, h.holds⟩
  | stop now => exact ⟨⟨h.shows.filed, h.shows.covered⟩, h.holds⟩
  | reset => exact h.reset
  | check w e => exact h.check w e
  | find w => exact h.find w
  | enter w => exact h.enter w

theorem after (h : Kept c l) (turns : List Turn) : Kept (c.after turns) (c.ledger l turns) := by
  induction turns generalizing c l with
  | nil => exact h
  | cons t ts ih => exact ih (h.step t)

/-- What is looked up is what the ledger has of the key; only the name is as it was found. -/
theorem get?_snapshot (h : Kept c l) {key : MetricKey} {r : Record Int}
    (hr : c.aggregator.snapshot.get? key = some r) :
    ∃ name, r = (Execution.ofKey key l.entered).foldl Record.enter (.new key name) := by
  have hmap := (c.store.get?_aggregator key).symm.trans hr
  obtain ⟨place, hplace, rfl⟩ := Option.map_eq_some_iff.mp hmap
  obtain ⟨name, hkept⟩ := h.shows.filed key place hplace
  exact ⟨name, by rw [hkept, Option.getD_some]⟩

end Kept

end Crowd
end ScriptProfiling
