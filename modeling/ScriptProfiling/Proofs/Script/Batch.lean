import ScriptProfiling.Proofs.Catalog
import ScriptProfiling.Proofs.Partial
import ScriptProfiling.Proofs.Value
import ScriptProfiling.Script.Analyzer

/-!
# Batches item by item

An item of a batch gives a script or a reason to leave it out, whatever stands beside it. So
the warnings of a batch are those reasons in order, and its scripts are those that its items
give, the last one of each path.

One thing ends a batch early: a value in the place of a path that the stack has no room to write
out. A path that is a text or an object of its own needs no room, and any other one no more than
it has sequences and tables inside each other, so there is a room in which a batch never fails.
-/
namespace ScriptProfiling

theorem spoilsScript_scriptRead (path reason : String) :
    (Fault.scriptRead path reason).spoilsScript = true := rfl

theorem spoilsScript_pair (item : Value) : FailsWith (·.spoilsScript = true) item.pair := by
  unfold Value.pair
  split
  · exact failsWith_error rfl
  · exact failsWith_ok _
  · apply failsWith_error
    split <;> rfl

namespace LineFacts

theorem spoilsScript_waitOf (raw : Line.RawWait) :
    FailsWith (·.spoilsScript = true) (waitOf raw) := by
  unfold waitOf
  split
  · exact failsWith_error rfl
  · exact failsWith_ok _

theorem spoilsScript_ofLine (line : String) : FailsWith (·.spoilsScript = true) (ofLine line) := by
  unfold ofLine
  dsimp only
  split
  · exact (spoilsScript_waitOf _).map.bind fun _ _ => failsWith_ok _
  · exact failsWith_ok _

end LineFacts

namespace ScriptInfo

/-- Whether what stands in the place of a path, if the item is a pair, is not too deep for the
room. -/
def Shallow (room : Nat) (item : Value) : Prop :=
  ∀ path lines, item.pair = .ok (path, lines) → path.obstacle? room ≠ some .tooDeep

theorem spoilsScript_written {room : Nat} {v : Value} (h : v.obstacle? room ≠ some .tooDeep) :
    FailsWith (·.spoilsScript = true) (v.written room) := by
  unfold Value.written
  rcases Value.hindered_obstacle? room v with hnone | hlong | ⟨hdeep, -⟩
  · rw [hnone]
    exact failsWith_ok _
  · rw [hlong]
    exact failsWith_error rfl
  · exact absurd hdeep h

theorem spoilsScript_pathOf {room : Nat} {path : Value} (h : path.obstacle? room ≠ some .tooDeep) :
    FailsWith (·.spoilsScript = true) (pathOf room path) := by
  unfold pathOf
  split
  · exact failsWith_ok _
  · split
    · exact failsWith_error (spoilsScript_scriptRead ..)
    · exact failsWith_ok _
  · exact (spoilsScript_written h).bind fun written _ =>
      failsWith_error (spoilsScript_scriptRead ..)

theorem spoilsScript_lineOf (path : String) (line : Value) :
    FailsWith (·.spoilsScript = true) (lineOf path line) := by
  unfold lineOf
  split
  · exact failsWith_ok _
  · exact failsWith_error (spoilsScript_scriptRead ..)

theorem spoilsScript_linesOf (path : String) (lines : Value) :
    FailsWith (·.spoilsScript = true) (linesOf path lines) := by
  unfold linesOf
  split
  · exact failsWith_mapM fun line _ => spoilsScript_lineOf path line
  · exact failsWith_mapM fun line _ => spoilsScript_lineOf path line
  · exact failsWith_error (spoilsScript_scriptRead ..)

section Items

variable (room : Nat)

theorem spoilsScript_ofValues {path : Value} (h : path.obstacle? room ≠ some .tooDeep)
    (lines : Value) : FailsWith (·.spoilsScript = true) (ofValues room path lines) := by
  refine (spoilsScript_pathOf h).bind fun name _ => ?_
  refine (spoilsScript_linesOf name lines).bind fun read _ => ?_
  exact (failsWith_mapM fun line _ => LineFacts.spoilsScript_ofLine line).map

/-- Why an item is left out: it is no pair, or its path and lines cannot be analysed. -/
def refusal? (item : Value) : Option Fault :=
  match item.pair with
  | .error f => some f
  | .ok (path, lines) =>
    match ofValues room path lines with
    | .error f => some f
    | .ok _ => none

/-- The script that an item gives. -/
def accepted? (item : Value) : Option ScriptInfo :=
  match item.pair with
  | .error _ => none
  | .ok (path, lines) => (ofValues room path lines).toOption

theorem ofItem_cases (item : Value) :
    (∃ f, ofItem room item = .error f ∧ refusal? room item = some f ∧
      accepted? room item = none) ∨
    ∃ info, ofItem room item = .ok info ∧ refusal? room item = none ∧
      accepted? room item = some info := by
  rw [refusal?, accepted?, ofItem]
  cases hpair : item.pair with
  | error f => exact Or.inl ⟨f, rfl, rfl, rfl⟩
  | ok pair =>
    obtain ⟨path, lines⟩ := pair
    rw [ok_bind]
    dsimp only
    cases hinfo : ofValues room path lines with
    | error f => exact Or.inl ⟨f, rfl, rfl, rfl⟩
    | ok info => exact Or.inr ⟨info, rfl, rfl, rfl⟩

variable {room}

theorem spoilsScript_ofItem {item : Value} (h : Shallow room item) :
    FailsWith (·.spoilsScript = true) (ofItem room item) := by
  refine (spoilsScript_pair item).bind fun pair hpair => ?_
  exact spoilsScript_ofValues room (h pair.1 pair.2 hpair) pair.2

variable (room)

variable {room}

end Items

/-- A pair is no deeper than what it is made of. -/
theorem nesting_of_pair {item path lines : Value} (h : item.pair = .ok (path, lines)) :
    path.nesting ≤ item.nesting := by
  have hitems : item.items? = some [path, lines] := by
    unfold Value.pair at h
    split at h
    · cases h
    · next hitems =>
      obtain ⟨rfl, rfl⟩ := Prod.mk.inj (Except.ok.inj h)
      exact hitems
    · cases h
  have hscalar : ∀ {α : Type} {ys : List α} {g : α → Value}, (∀ y, (g y).nesting = 0) →
      ys.map g = [path, lines] → path.nesting = 0 := by
    intro α ys g hg hys
    obtain ⟨y, -, hy⟩ := List.mem_map.mp (hys ▸ List.mem_cons_self : path ∈ ys.map g)
    rw [← hy, hg]
  unfold Value.items? at hitems
  split at hitems
  · obtain rfl := Option.some.inj hitems
    exact Nat.le_trans (Nat.le_succ _) (Nat.le_max_left _ _)
  · obtain rfl := Option.some.inj hitems
    exact Nat.le_trans (Nat.le_succ _) (Nat.le_max_left _ _)
  · rw [hscalar (fun _ => rfl) (Option.some.inj hitems)]
    exact Nat.zero_le _
  · rw [hscalar (fun _ => rfl) (Option.some.inj hitems)]
    exact Nat.zero_le _
  · rw [hscalar (fun _ => rfl) (Option.some.inj hitems)]
    exact Nat.zero_le _
  · cases hitems

theorem shallow_of_nesting {items : List Value} {room : Nat}
    (h : Value.itemsNesting items ≤ room) : ∀ item ∈ items, Shallow room item := by
  induction items with
  | nil => simp
  | cons first items ih =>
    rw [Value.itemsNesting, Nat.max_le] at h
    rintro item hitem path lines hpair
    rcases List.mem_cons.mp hitem with rfl | hrest
    · have hpath := nesting_of_pair hpair
      exact Value.obstacle?_ne_tooDeep (by omega)
    · exact ih h.2 item hrest path lines hpair

end ScriptInfo

namespace Batch

open ScriptInfo

/-- The batch of some scripts, with the reasons why other items have been left out. -/
def ofParts (infos : List ScriptInfo) (faults : List Fault) : Batch where
  scripts := .ofList (infos.map fun info => (info.path, info))
  warnings := faults.map warning

section Items

variable {room : Nat}

theorem add_ofParts {item : Value} (h : Shallow room item) (infos : List ScriptInfo)
    (faults : List Fault) :
    (ofParts infos faults).add room item =
      .ok (ofParts (infos ++ (accepted? room item).toList)
        (faults ++ (refusal? room item).toList)) := by
  rcases ofItem_cases room item with ⟨f, hitem, hrefusal, haccepted⟩ |
    ⟨info, hitem, hrefusal, haccepted⟩
  · have hspoils : f.spoilsScript = true := spoilsScript_ofItem h f hitem
    simp [add, hitem, hspoils, hrefusal, haccepted, ofParts]
  · simp [add, hitem, hrefusal, haccepted, ofParts, Catalog.ofList_append_singleton]

theorem addAll_ofParts {items : List Value} (h : ∀ item ∈ items, Shallow room item)
    (infos : List ScriptInfo) (faults : List Fault) :
    (ofParts infos faults).addAll room items =
      (ofParts (infos ++ items.filterMap (accepted? room))
        (faults ++ items.filterMap (refusal? room)), none) := by
  induction items generalizing infos faults with
  | nil => simp [addAll]
  | cons item items ih =>
    obtain ⟨hitem, hrest⟩ := List.forall_mem_cons.mp h
    have hcons : ∀ {β : Type} (f : Value → Option β),
        (item :: items).filterMap f = (f item).toList ++ items.filterMap f := by
      intro β f
      rw [List.filterMap_cons]
      cases f item <;> rfl
    rw [addAll, add_ofParts hitem]
    dsimp only
    rw [ih hrest, hcons, hcons, List.append_assoc, List.append_assoc]

theorem ofItems_eq {items : List Value} (h : ∀ item ∈ items, Shallow room item) :
    ofItems room items =
      (ofParts (items.filterMap (accepted? room)) (items.filterMap (refusal? room)), none) :=
  addAll_ofParts h [] []

end Items

theorem keys_ofParts (infos : List ScriptInfo) (faults : List Fault) :
    (ofParts infos faults).scripts.keys = (infos.map (·.path)).eraseDups := by
  rw [ofParts, Catalog.keys_ofList, List.map_map]
  rfl

theorem get?_ofParts (infos : List ScriptInfo) (faults : List Fault) (path : String) :
    (ofParts infos faults).scripts.get? path = (infos.filter (·.path = path)).getLast? := by
  rw [ofParts, Catalog.get?_ofList, List.filter_map, List.getLast?_map, Option.map_map]
  simp [Function.comp_def]

end Batch

/-- What some items make of a batch: a warning for each refused item, in their order, and under
each path of an accepted item the script of the last one with this path, the paths in the order
in which they first come. -/
structure Batch.Gathers (room : Nat) (items : List Value) (scripts : Scripts)
    (warnings : List String) : Prop where
  warnings : warnings = (items.filterMap (ScriptInfo.refusal? room)).map Batch.warning
  keys : scripts.keys = ((items.filterMap (ScriptInfo.accepted? room)).map (·.path)).eraseDups
  last : ∀ path, scripts.get? path =
    ((items.filterMap (ScriptInfo.accepted? room)).filter (·.path = path)).getLast?

namespace Analyzer

open ScriptInfo

section Items

variable (a : Analyzer) {room : Nat} {items : List Value}

theorem analyze_eq (h : ∀ item ∈ items, Shallow room item) :
    let batch := Batch.ofParts (items.filterMap (accepted? room)) (items.filterMap (refusal? room))
    a.analyze room items = ⟨.ok batch.scripts, ⟨batch.warnings⟩, batch.log⟩ := by
  rw [analyze, Batch.ofItems_eq h]

theorem exists_gathers (h : ∀ item ∈ items, Shallow room item) :
    ∃ scripts, (a.analyze room items).result = .ok scripts ∧
      Batch.Gathers room items scripts (a.analyze room items).state.warnings := by
  rw [a.analyze_eq h]
  exact ⟨_, rfl, rfl, Batch.keys_ofParts _ _, Batch.get?_ofParts _ _⟩

end Items

/-- Items of all kinds, three of them scripts. -/
def mixedItems : List Value :=
  [.list [.text "a.sk", .list [.text "loop all players:"]], .int 5,
    .tuple [.text "b.sk", .tuple [.text "on join:"]], .list [.text "a.sk", .text "loop"],
    .text "ab", .list [.path "a.sk", .list [.text "wait 2 ticks"]],
    .list [.list [.list [.int 7]], .list []], .list [.text "c.sk"]]

/-- The scripts among them. -/
def scriptItems : List Value :=
  [.list [.text "a.sk", .list [.text "loop all players:"]],
    .tuple [.text "b.sk", .tuple [.text "on join:"]],
    .list [.path "a.sk", .list [.text "wait 2 ticks"]]]

end Analyzer
end ScriptProfiling
