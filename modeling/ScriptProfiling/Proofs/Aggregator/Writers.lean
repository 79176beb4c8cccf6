import ScriptProfiling.Proofs.Aggregator.Growth
import Mathlib.Logic.Function.Basic

/-!
# Writers between the steps of others

Recording an execution takes three steps. The writer looks whether a session runs, looks up the
record of the key, and enters the execution in the record that it got. Others may take their
steps in between: more writers, and whoever starts, stops or resets the aggregator. A writer may
so hold a record that a reset has dropped; records are told apart by the places where they are
kept, and not by their keys. A writer whose steps nobody interrupts records as an aggregator does.
-/
namespace ScriptProfiling

/-- An execution that a writer tells of. Without a duration it is only counted. -/
structure Execution where
  key : MetricKey
  name : String
  duration : Option Value

def Execution.recording (e : Execution) : Recording :=
  match e.duration with
  | some d => .span e.key d e.name
  | none => .occurrence e.key e.name

/-- A record with one more execution. A duration that is refused changes nothing in it. -/
def Record.enter (r : Record Int) (e : Execution) : Record Int :=
  match e.duration with
  | none => r.occurrence
  | some v =>
    match v.toWhole with
    | .ok d => r.timed d
    | .error _ => r

@[simp] theorem Record.key_enter (r : Record Int) (e : Execution) : (r.enter e).key = r.key := by
  unfold enter
  split
  · rfl
  · split
    · next d _ => exact r.key_note ⟨r.key, "", some d⟩
    · rfl

/-- An aggregator as writers share it. A key leads to the place where its record is kept; the
place stays when the record is dropped, for a writer may hold it still. -/
structure Store where
  window : Window
  places : Catalog MetricKey Nat
  kept : List (Record Int)

namespace Store

def fresh : Store := ⟨.unopened, .empty, []⟩

/-- What those see who only look at the records under their keys. -/
def aggregator (s : Store) : Aggregator where
  window := s.window
  records := s.places.mapValues fun key place => s.kept[place]?.getD (.new key "")

def start (s : Store) (now : Binary64) : Store :=
  { s with window := (s.aggregator.start now).value.2.window }

def stop (s : Store) (now : Binary64) : Store :=
  { s with window := (s.aggregator.stop now).value.2.window }

/-- A reset forgets where the records are, and not the records. -/
def reset (s : Store) : Store :=
  if s.aggregator.active then s else { s with window := .unopened, places := .empty }

/-- Keeps a new record and files its place under the key. -/
def keep (s : Store) (key : MetricKey) (name : String) : Store :=
  { s with places := s.places.put key s.kept.length, kept := s.kept ++ [.new key name] }

/-- The place of a key's record; a new record is kept only while a session runs. -/
def recordFor (s : Store) (key : MetricKey) (name : String) : Option Nat × Store :=
  match s.places.get? key with
  | some place => (some place, s)
  | none => if s.aggregator.active then (some s.kept.length, s.keep key name) else (none, s)

def enter (s : Store) (place : Nat) (e : Execution) : Store :=
  { s with kept := s.kept.modify place (·.enter e) }

/-- Every key leads to a record of its own. -/
def Sound (s : Store) : Prop :=
  ∀ key place, s.places.get? key = some place → ∃ r, s.kept[place]? = some r ∧ r.key = key

variable {s : Store}

@[simp] theorem keys_aggregator (s : Store) : s.aggregator.records.keys = s.places.keys :=
  Catalog.keys_mapValues ..

theorem get?_aggregator (s : Store) (key : MetricKey) :
    s.aggregator.records.get? key =
      (s.places.get? key).map fun place => s.kept[place]?.getD (.new key "") :=
  Catalog.get?_mapValues ..

theorem aggregator_start (s : Store) (now : Binary64) :
    (s.start now).aggregator = (s.aggregator.start now).value.2 := by
  calc (s.start now).aggregator
      = ⟨(s.aggregator.start now).value.2.window, s.aggregator.records⟩ := rfl
    _ = (s.aggregator.start now).value.2 := by rw [← Aggregator.records_start]

theorem aggregator_stop (s : Store) (now : Binary64) :
    (s.stop now).aggregator = (s.aggregator.stop now).value.2 := by
  calc (s.stop now).aggregator
      = ⟨(s.aggregator.stop now).value.2.window, s.aggregator.records⟩ := rfl
    _ = (s.aggregator.stop now).value.2 := by rw [← Aggregator.records_stop]

theorem aggregator_reset (s : Store) : s.reset.aggregator = s.aggregator.reset.value.2 := by
  unfold reset Aggregator.reset
  cases s.aggregator.active <;> rfl

theorem Sound.place_injective (h : s.Sound) {key key' : MetricKey} {place : Nat}
    (hplace : s.places.get? key = some place) (hplace' : s.places.get? key' = some place) :
    key = key' := by
  obtain ⟨r, hr, hkey⟩ := h key place hplace
  obtain ⟨r', hr', hkey'⟩ := h key' place hplace'
  obtain rfl := Option.some.inj (hr.symm.trans hr')
  exact hkey.symm.trans hkey'

theorem Sound.get? (h : s.Sound) {key : MetricKey} {place : Nat}
    (hplace : s.places.get? key = some place) : s.aggregator.records.get? key = s.kept[place]? := by
  obtain ⟨r, hr, -⟩ := h key place hplace
  rw [get?_aggregator, hplace, Option.map_some, hr, Option.getD_some]

/-- A record that is looked up is there, or is kept now, or may not be kept. -/
theorem recordFor_cases (s : Store) (key : MetricKey) (name : String) :
    (∃ place, s.places.get? key = some place ∧ s.recordFor key name = (some place, s)) ∨
    (s.places.get? key = none ∧ s.aggregator.active = true ∧
      s.recordFor key name = (some s.kept.length, s.keep key name)) ∨
    (s.places.get? key = none ∧ s.aggregator.active = false ∧
      s.recordFor key name = (none, s)) := by
  unfold recordFor
  cases hplace : s.places.get? key with
  | some place => exact Or.inl ⟨place, rfl, rfl⟩
  | none =>
    cases ha : s.aggregator.active with
    | true => exact Or.inr (Or.inl ⟨rfl, rfl, rfl⟩)
    | false => exact Or.inr (Or.inr ⟨rfl, rfl, rfl⟩)

theorem getElem?_keep {place : Nat} {r : Record Int} (h : s.kept[place]? = some r)
    (key : MetricKey) (name : String) : (s.keep key name).kept[place]? = some r := by
  obtain ⟨hlt, -⟩ := List.getElem?_eq_some_iff.mp h
  exact (List.getElem?_append_left hlt).trans h

theorem getElem?_keep_length (s : Store) (key : MetricKey) (name : String) :
    (s.keep key name).kept[s.kept.length]? = some (.new key name) :=
  List.getElem?_concat_length

theorem Sound.keep (h : s.Sound) (key : MetricKey) (name : String) : (s.keep key name).Sound := by
  intro k place hplace
  rw [Store.keep, Catalog.get?_put] at hplace
  split at hplace
  · next hk =>
    obtain rfl := Option.some.inj hplace
    exact ⟨_, s.getElem?_keep_length key name, hk⟩
  · obtain ⟨r, hr, hkey⟩ := h k place hplace
    exact ⟨r, getElem?_keep hr key name, hkey⟩

theorem aggregator_keep (h : s.Sound) {key : MetricKey} (name : String) :
    (s.keep key name).aggregator =
      { s.aggregator with records := s.aggregator.records.put key (.new key name) } := by
  refine congrArg (Aggregator.mk s.window) (Catalog.eq_of_get? ?_ fun k => ?_)
  · rw [Catalog.keys_put, keys_aggregator]
    exact (keys_aggregator _).trans (Catalog.keys_put ..)
  · change (s.keep key name).aggregator.records.get? k = _
    rw [Catalog.get?_put, get?_aggregator]
    split
    · next hk =>
      obtain rfl := hk
      have hplace : (s.keep key name).places.get? key = some s.kept.length := by simp [Store.keep]
      rw [hplace, Option.map_some, getElem?_keep_length, Option.getD_some]
    · next hk =>
      have hplaces : (s.keep key name).places.get? k = s.places.get? k := by simp [Store.keep, hk]
      rw [hplaces, get?_aggregator]
      cases hplace : s.places.get? k with
      | none => rfl
      | some place =>
        obtain ⟨r, hr, -⟩ := h k place hplace
        rw [Option.map_some, Option.map_some, getElem?_keep hr key name, hr]

theorem aggregator_enter (h : s.Sound) {key : MetricKey} {place : Nat} {r : Record Int}
    (hplace : s.places.get? key = some place) (hr : s.kept[place]? = some r) (e : Execution) :
    (s.enter place e).aggregator =
      { s.aggregator with records := s.aggregator.records.put key (r.enter e) } := by
  refine congrArg (Aggregator.mk s.window) (Catalog.eq_of_get? ?_ fun k => ?_)
  · have hkey : key ∈ s.aggregator.records.keys := by
      rw [keys_aggregator]
      exact Catalog.mem_keys_of_get? hplace
    rw [Catalog.keys_put, if_pos hkey]
    exact (keys_aggregator _).trans (keys_aggregator s).symm
  · change (s.enter place e).aggregator.records.get? k = _
    rw [Catalog.get?_put, get?_aggregator, get?_aggregator]
    change (s.places.get? k).map (fun found => (s.kept.modify place _)[found]?.getD _) = _
    split
    · next hk =>
      obtain rfl := hk
      simp [hplace, hr]
    · next hk =>
      cases hplace' : s.places.get? k with
      | none => rfl
      | some place' =>
        have hne : place ≠ place' := by
          rintro rfl
          exact hk (h.place_injective hplace hplace')
        simp [hne]

theorem Sound.ownKeys (h : s.Sound) : Metrics.OwnKeys s.aggregator.records := by
  intro key r hr
  rw [get?_aggregator, Option.map_eq_some_iff] at hr
  obtain ⟨place, hplace, rfl⟩ := hr
  obtain ⟨r, hr, hkey⟩ := h key place hplace
  rw [hr, Option.getD_some, hkey]

end Store

theorem Aggregator.record_recording {a : Aggregator} (h : a.active = true)
    (hkeys : Metrics.OwnKeys a.records) (e : Execution) :
    (a.record e.recording).2 =
      { a with records := a.records.put e.key ((a.records.recordOf e.key e.name).enter e) } := by
  have hrecords : (a.record e.recording).2.records =
      a.records.put e.key ((a.records.recordOf e.key e.name).enter e) := by
    rw [records_record h hkeys, Execution.recording, Record.enter]
    cases e.duration with
    | none => rfl
    | some v =>
      dsimp only [Metrics.tell]
      cases v.toWhole <;> rfl
  calc (a.record e.recording).2
      = ⟨(a.record e.recording).2.window, (a.record e.recording).2.records⟩ := rfl
    _ = _ := by rw [window_record, hrecords]

/-- How far a writer is with an execution. -/
inductive Phase where
  | idle
  | admitted (e : Execution)
  | holding (e : Execution) (place : Nat)

/-- A step of the host, or of the writer with a number. -/
inductive Turn where
  | start (now : Binary64)
  | stop (now : Binary64)
  | reset
  | check (w : Nat) (e : Execution)
  | find (w : Nat)
  | enter (w : Nat)

/-- Writers around one aggregator, each at its own step. -/
structure Crowd where
  store : Store
  phase : Nat → Phase

namespace Crowd

def fresh : Crowd := ⟨.fresh, fun _ => .idle⟩

def aggregator (c : Crowd) : Aggregator := c.store.aggregator

/-- What is left after a step. A writer that is not ready for its step does nothing. -/
def step (c : Crowd) : Turn → Crowd
  | .start now => { c with store := c.store.start now }
  | .stop now => { c with store := c.store.stop now }
  | .reset => { c with store := c.store.reset }
  | .check w e =>
    match c.phase w with
    | .idle =>
      if c.aggregator.active then { c with phase := Function.update c.phase w (.admitted e) }
      else c
    | _ => c
  | .find w =>
    match c.phase w with
    | .admitted e =>
      let found := c.store.recordFor e.key e.name
      ⟨found.2, Function.update c.phase w (found.1.elim .idle (.holding e))⟩
    | _ => c
  | .enter w =>
    match c.phase w with
    | .holding e place => ⟨c.store.enter place e, Function.update c.phase w .idle⟩
    | _ => c

def after (c : Crowd) (turns : List Turn) : Crowd := turns.foldl step c

/-- A writer whose three steps follow each other does what an aggregator does at once. -/
theorem aggregator_after_writer {c : Crowd} (h : c.store.Sound) {w : Nat} (hw : c.phase w = .idle)
    (e : Execution) :
    (c.after [.check w e, .find w, .enter w]).aggregator = (c.aggregator.record e.recording).2 := by
  change (((c.step (.check w e)).step (.find w)).step (.enter w)).aggregator = _
  cases ha : c.aggregator.active with
  | false => simp [step, hw, ha, Aggregator.record_of_idle ha]
  | true =>
    have hfound : (c.step (.check w e)).step (.find w) =
        ⟨(c.store.recordFor e.key e.name).2,
          Function.update (Function.update c.phase w (.admitted e)) w
            ((c.store.recordFor e.key e.name).1.elim .idle (.holding e))⟩ := by
      simp [step, hw, ha]
    rw [hfound, Aggregator.record_recording ha h.ownKeys, Metrics.recordOf]
    rcases c.store.recordFor_cases e.key e.name with
      ⟨place, hplace, hfor⟩ | ⟨hplace, -, hfor⟩ | ⟨-, hidle, -⟩
    · obtain ⟨r, hr, -⟩ := h e.key place hplace
      simp [step, aggregator, hfor, Store.aggregator_enter h hplace hr, h.get? hplace, hr]
    · have hkept : (c.store.keep e.key e.name).places.get? e.key = some c.store.kept.length := by
        simp [Store.keep]
      have hentered := Store.aggregator_enter (h.keep e.key e.name) hkept
        (c.store.getElem?_keep_length e.key e.name) e
      simp [step, aggregator, hfor, hentered, Store.aggregator_keep h, Catalog.put_put,
        Store.get?_aggregator, hplace]
    · cases ha.symm.trans hidle

end Crowd
end ScriptProfiling
