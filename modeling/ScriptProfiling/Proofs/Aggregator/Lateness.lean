import ScriptProfiling.Proofs.Aggregator.Ledger

/-!
# Late writers

A writer that has been admitted may be overtaken by a stop and a reset. Whatever steps come in
between, a key is new only while a session runs, and from a stop to the next start nothing is
added, also where a reset has emptied everything. Writers that look up the same key without a
reset between them hold the same record, and what they enter shows in the snapshot: nothing is
lost but what is entered in a record that a reset has dropped.
-/
namespace ScriptProfiling

def Turn.isStart : Turn → Bool
  | .start _ => true
  | _ => false

namespace Crowd

variable {c : Crowd}

/-- Whether a step is a reset that is not refused. -/
def clears (c : Crowd) : Turn → Bool
  | .reset => !c.aggregator.active
  | _ => false

def clearedBy (c : Crowd) : List Turn → Bool
  | [] => false
  | t :: ts => c.clears t || (c.step t).clearedBy ts

/-- All that one step can do to the places: a reset clears them, and a writer that finds no place
for its key makes one while a session runs. -/
theorem places_step (c : Crowd) (t : Turn) :
    (c.clears t = false ∧ (c.step t).store.places = c.store.places) ∨
    (c.clears t = true ∧ (c.step t).store.places = .empty) ∨
    ∃ w e, t = .find w ∧ c.phase w = .admitted e ∧ c.aggregator.active = true ∧
      c.store.places.get? e.key = none ∧ (c.step t).store = c.store.keep e.key e.name := by
  cases t with
  | start now => exact Or.inl ⟨rfl, rfl⟩
  | stop now => exact Or.inl ⟨rfl, rfl⟩
  | reset =>
    change (_ ∧ c.store.reset.places = _) ∨ (_ ∧ c.store.reset.places = _) ∨ _
    rw [Store.reset, clears, aggregator]
    cases c.store.aggregator.active with
    | true => exact Or.inl ⟨rfl, rfl⟩
    | false => exact Or.inr (Or.inl ⟨rfl, rfl⟩)
  | check w e =>
    refine Or.inl ⟨rfl, ?_⟩
    rw [step]
    split
    · split <;> rfl
    · rfl
  | find w =>
    cases hw : c.phase w with
    | admitted e =>
      have hstore : (c.step (.find w)).store = (c.store.recordFor e.key e.name).2 := by
        simp [step, hw]
      rw [hstore]
      rcases c.store.recordFor_cases e.key e.name with
        ⟨place, -, hfor⟩ | ⟨hplace, ha, hfor⟩ | ⟨-, -, hfor⟩ <;> rw [hfor]
      · exact Or.inl ⟨rfl, rfl⟩
      · exact Or.inr (Or.inr ⟨w, e, rfl, hw, ha, hplace, rfl⟩)
      · exact Or.inl ⟨rfl, rfl⟩
    | _ => exact Or.inl ⟨rfl, by simp [step, hw]⟩
  | enter w =>
    refine Or.inl ⟨rfl, ?_⟩
    rw [step]
    split <;> rfl

theorem active_step (c : Crowd) (t : Turn) :
    (c.step t).aggregator.active = match t with
      | .start _ => true
      | .stop _ => false
      | _ => c.aggregator.active := by
  cases t with
  | start now =>
    change (c.store.start now).aggregator.active = true
    rw [Store.aggregator_start, Aggregator.active_start]
  | stop now =>
    change (c.store.stop now).aggregator.active = false
    rw [Store.aggregator_stop, Aggregator.active_stop]
  | reset =>
    change c.store.reset.aggregator.active = _
    rw [Store.aggregator_reset, Aggregator.active_reset, aggregator]
  | check w e =>
    dsimp only [step]
    split
    · split <;> rfl
    · rfl
  | find w =>
    dsimp only [step]
    split
    · next e _ =>
      dsimp only [aggregator]
      rcases c.store.recordFor_cases e.key e.name with
        ⟨place, -, hfor⟩ | ⟨-, -, hfor⟩ | ⟨-, -, hfor⟩
      · rw [hfor]
      · rw [hfor]
        rfl
      · rw [hfor]
    · rfl
  | enter w =>
    dsimp only [step]
    split <;> rfl

theorem keys_eq (c : Crowd) : c.aggregator.snapshot.keys = c.store.places.keys :=
  c.store.keys_aggregator

theorem active_of_new_key {t : Turn} {key : MetricKey}
    (hkey : key ∈ (c.step t).aggregator.snapshot.keys) (hnew : key ∉ c.aggregator.snapshot.keys) :
    c.aggregator.active = true ∧ (c.step t).aggregator.active = true := by
  rw [keys_eq] at hkey hnew
  rcases c.places_step t with ⟨-, hplaces⟩ | ⟨-, hplaces⟩ | ⟨w, e, rfl, -, ha, -, -⟩
  · exact absurd (hplaces ▸ hkey) hnew
  · rw [hplaces] at hkey
    cases hkey
  · exact ⟨ha, (c.active_step (.find w)).trans ha⟩

section Idle

theorem idle_step (ha : c.aggregator.active = false) {t : Turn} (ht : t.isStart = false) :
    (c.step t).aggregator.active = false ∧
    ((c.step t).store.places = c.store.places ∨ (c.step t).store.places = .empty) := by
  constructor
  · rw [active_step]
    cases t with
    | start now => cases ht
    | stop now => rfl
    | _ => exact ha
  · rcases c.places_step t with ⟨-, hplaces⟩ | ⟨-, hplaces⟩ | ⟨w, e, rfl, -, hactive, -, -⟩
    · exact Or.inl hplaces
    · exact Or.inr hplaces
    · cases ha.symm.trans hactive

theorem idle_after (ha : c.aggregator.active = false) {ts : List Turn}
    (hts : ∀ t ∈ ts, t.isStart = false) :
    (c.after ts).aggregator.active = false ∧
    ((c.after ts).store.places = c.store.places ∨ (c.after ts).store.places = .empty) := by
  induction ts generalizing c with
  | nil => exact ⟨ha, Or.inl rfl⟩
  | cons t ts ih =>
    obtain ⟨ht, hts⟩ := List.forall_mem_cons.mp hts
    obtain ⟨hidle, hfirst⟩ := idle_step ha ht
    obtain ⟨hlast, hrest⟩ := ih hidle hts
    refine ⟨hlast, ?_⟩
    rcases hrest with hrest | hrest
    · rcases hfirst with hfirst | hfirst
      · exact Or.inl (hrest.trans hfirst)
      · exact Or.inr (hrest.trans hfirst)
    · exact Or.inr hrest

theorem keys_prefix_of_idle (ha : c.aggregator.active = false) {ts : List Turn}
    (hts : ∀ t ∈ ts, t.isStart = false) :
    (c.after ts).aggregator.snapshot.keys <+: c.aggregator.snapshot.keys := by
  rw [keys_eq, keys_eq]
  rcases (idle_after ha hts).2 with hplaces | hplaces
  · rw [hplaces]
  · rw [hplaces]
    exact List.nil_prefix

theorem snapshot_of_reset (ha : c.aggregator.active = false) {ts : List Turn}
    (hts : ∀ t ∈ ts, t.isStart = false) :
    ((c.step .reset).after ts).aggregator.snapshot = ∅ := by
  have hcleared : (c.step .reset).store.places = .empty := by
    change c.store.reset.places = _
    rw [Store.reset, if_neg (by rw [← aggregator, ha]; decide)]
  have hidle : (c.step .reset).aggregator.active = false := (c.active_step .reset).trans ha
  have hplaces : ((c.step .reset).after ts).store.places = .empty := by
    rcases (idle_after hidle hts).2 with hplaces | hplaces
    · exact hplaces.trans hcleared
    · exact hplaces
  rw [aggregator, Aggregator.snapshot, Store.aggregator]
  dsimp only
  rw [hplaces]
  rfl

end Idle

section Lookup

/-- The writer with a number is about to look up the record of its key, and finds this place. -/
def Finds (c : Crowd) (w : Nat) (e : Execution) (place : Nat) : Prop :=
  c.phase w = .admitted e ∧ (c.step (.find w)).phase w = .holding e place

theorem Finds.recordFor {w : Nat} {e : Execution} {place : Nat} (h : c.Finds w e place) :
    (c.store.recordFor e.key e.name).1 = some place := by
  obtain ⟨hw, hheld⟩ := h
  simp only [step, hw, Function.update_self] at hheld
  cases hfor : (c.store.recordFor e.key e.name).1 with
  | none => simp [hfor] at hheld
  | some found => simpa [hfor] using hheld

theorem Finds.get?_step {w : Nat} {e : Execution} {place : Nat} (h : c.Finds w e place) :
    (c.step (.find w)).store.places.get? e.key = some place := by
  have hfound := h.recordFor
  have hstore : (c.step (.find w)).store = (c.store.recordFor e.key e.name).2 := by
    simp [step, h.1]
  rw [hstore]
  rcases c.store.recordFor_cases e.key e.name with
    ⟨_, hplace, hfor⟩ | ⟨-, -, hfor⟩ | ⟨-, -, hfor⟩ <;> rw [hfor] at hfound ⊢
  · exact hplace.trans hfound
  · simpa [Store.keep] using hfound
  · cases hfound

theorem get?_step {t : Turn} (ht : c.clears t = false) {key : MetricKey} {place : Nat}
    (hplace : c.store.places.get? key = some place) :
    (c.step t).store.places.get? key = some place := by
  rcases c.places_step t with ⟨-, hplaces⟩ | ⟨hclears, -⟩ | ⟨w, e, -, -, -, hnone, hstore⟩
  · rw [hplaces, hplace]
  · cases ht.symm.trans hclears
  · have hne : e.key ≠ key := by
      rintro rfl
      cases hnone.symm.trans hplace
    simp [hstore, Store.keep, hne, hplace]

theorem get?_after {ts : List Turn} (hts : c.clearedBy ts = false) {key : MetricKey} {place : Nat}
    (hplace : c.store.places.get? key = some place) :
    (c.after ts).store.places.get? key = some place := by
  induction ts generalizing c with
  | nil => exact hplace
  | cons t ts ih =>
    rw [clearedBy, Bool.or_eq_false_iff] at hts
    exact ih hts.2 (get?_step hts.1 hplace)

/-- Writers of one key find the same record if nothing is cleared between them. -/
theorem Finds.place_eq {w w' : Nat} {e e' : Execution} {place place' : Nat} {between : List Turn}
    (h : c.Finds w e place) (hbetween : (c.step (.find w)).clearedBy between = false)
    (h' : ((c.step (.find w)).after between).Finds w' e' place') (hkey : e'.key = e.key) :
    place' = place := by
  have hplace := get?_after hbetween h.get?_step
  have hfound := h'.recordFor
  rw [Store.recordFor, hkey, hplace] at hfound
  exact (Option.some.inj hfound).symm

end Lookup

/-- Any number of writers look whether a session runs, look up their records and enter their
executions, and start, stop and reset come at any time. Then a key is new only while a session
runs. From a stop on keys are not added until the next start, and from a reset that is not
refused on there are none. Writers of one key hold the same record if nothing is cleared from the
first lookup to the second, and so all shows that writers enter who have looked up their records
since the last reset in force: each record is what the executions of its key make of a new one.
A writer whose steps follow each other does what recording at once does. -/
theorem late_writers (turns : List Turn) :
    let c := fresh.after turns
    let entered := (fresh.ledger .empty turns).entered
    (∀ t, ∀ key ∈ (c.step t).aggregator.snapshot.keys, key ∉ c.aggregator.snapshot.keys →
      c.aggregator.active = true ∧ (c.step t).aggregator.active = true) ∧
    (∀ now more later, (∀ t ∈ more ++ later, t.isStart = false) →
      let stopped := (c.step (.stop now)).after more
      (stopped.after later).aggregator.snapshot.keys <+: stopped.aggregator.snapshot.keys) ∧
    (c.aggregator.reset.value.1 = true → ∀ later, (∀ t ∈ later, t.isStart = false) →
      let emptied := ((c.step .reset).after later).aggregator
      emptied.recordCount = 0 ∧ emptied.snapshot = ∅) ∧
    (∀ w e place between w' e' place', c.Finds w e place →
      (c.step (.find w)).clearedBy between = false →
      ((c.step (.find w)).after between).Finds w' e' place' → e'.key = e.key → place' = place) ∧
    (∀ e ∈ entered, e.key ∈ c.aggregator.snapshot.keys) ∧
    (∀ key r, c.aggregator.snapshot.get? key = some r →
      ∃ name, r = (Execution.ofKey key entered).foldl Record.enter (.new key name)) ∧
    ∀ w e, c.phase w = .idle →
      (c.after [.check w e, .find w, .enter w]).aggregator =
        (c.aggregator.record e.recording).2 := by
  intro c entered
  have hkept : Kept c (fresh.ledger .empty turns) := Kept.fresh.after turns
  refine ⟨fun t key hkey hnew => active_of_new_key hkey hnew, ?_, ?_,
    fun w e place between w' e' place' h hbetween h' hkey => h.place_eq hbetween h' hkey, ?_,
    fun key r hr => hkept.get?_snapshot hr,
    fun w e hw => aggregator_after_writer hkept.shows.sound hw e⟩
  · intro now more later hidle
    rw [List.forall_mem_append] at hidle
    have hstopped : (c.step (.stop now)).aggregator.active = false := c.active_step (.stop now)
    exact keys_prefix_of_idle (idle_after hstopped hidle.1).1 hidle.2
  · intro hreset later hlater
    have hactive : c.aggregator.active = false := by
      rw [Aggregator.reset] at hreset
      split at hreset
      · cases hreset
      · next ha => exact Bool.eq_false_of_not_eq_true ha
    have hempty := snapshot_of_reset hactive hlater
    exact ⟨congrArg Catalog.size hempty, hempty⟩
  · intro e he
    rw [keys_eq]
    exact hkept.shows.covered e he

/-- Three writers are admitted, two of them for the same element. -/
def crowdedDay : List Turn :=
  [.start (.zero false), .check 0 ⟨⟨"shop.sk", 1, "event"⟩, "on join", some (.int 5)⟩,
    .check 1 ⟨⟨"shop.sk", 1, "event"⟩, "late", none⟩,
    .check 2 ⟨⟨"shop.sk", 4, "loop"⟩, "each", none⟩]

/-- The second writer is caught by the stop and still finds the record of the first one. The third
finds none, and after the reset there is nothing. -/
theorem late_writers_crowdedDay :
    let join : MetricKey := ⟨"shop.sk", 1, "event"⟩
    let stop : Turn := .stop (.zero false)
    let c := fresh.after crowdedDay
    let d := fresh.after (crowdedDay ++ [.find 0, .enter 0, stop, .find 1])
    (c.aggregator.snapshot.keys = [] ∧ (c.step (.find 0)).aggregator.snapshot.keys = [join] ∧
      c.aggregator.active = true) ∧
    (c.Finds 0 ⟨join, "on join", some (.int 5)⟩ 0 ∧
      ((c.step (.find 0)).after [.enter 0, stop]).Finds 1 ⟨join, "late", none⟩ 0) ∧
    ((d.step stop).after [.enter 1, .find 2]).aggregator.snapshot.keys <+: [join] ∧
    d.aggregator.reset.value.1 = true ∧
    ((d.step .reset).after [.find 2, .enter 1]).aggregator.recordCount = 0 ∧
    join ∈ (d.step (.enter 1)).aggregator.snapshot.keys := by
  intro join stop c d
  obtain ⟨hnew, -, -, hfound, -, -, -⟩ := late_writers crowdedDay
  obtain ⟨-, hstopped, hreset, -, -, -, -⟩ :=
    late_writers (crowdedDay ++ [.find 0, .enter 0, stop, .find 1])
  obtain ⟨-, -, -, -, hentered, -, -⟩ :=
    late_writers (crowdedDay ++ [.find 0, .enter 0, stop, .find 1, .enter 1])
  have hkeys : (c.step (.find 0)).aggregator.snapshot.keys = [join] := rfl
  have hfirst : c.Finds 0 ⟨join, "on join", some (.int 5)⟩ 0 := ⟨rfl, rfl⟩
  obtain ⟨place, hsecond⟩ :
      ∃ place, ((c.step (.find 0)).after [.enter 0, stop]).Finds 1 ⟨join, "late", none⟩ place :=
    ⟨0, rfl, rfl⟩
  have hplace : place = 0 := hfound 0 _ 0 [.enter 0, stop] 1 _ place hfirst rfl hsecond rfl
  refine ⟨⟨rfl, hkeys, ?_⟩, ⟨hfirst, hplace ▸ hsecond⟩, ?_, rfl, ?_, ?_⟩
  · exact (hnew (.find 0) join (by rw [hkeys]; exact List.mem_singleton_self _) (by decide)).1
  · exact hstopped (.zero false) [] [.enter 1, .find 2] (by decide)
  · exact (hreset rfl [.find 2, .enter 1] (by decide)).1
  · exact hentered ⟨join, "late", none⟩ (List.mem_of_getElem? (i := 1) rfl)

end Crowd
end ScriptProfiling
