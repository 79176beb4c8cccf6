import ScriptProfiling.Proofs.Script.Batch
import ScriptProfiling.Proofs.Script.Facts

/-!
# Well-formed payloads

A payload is a path and lines of text. Checks of its shape never refuse it, and of what its
lines hold only one thing can: a wait with more digits than the limit.
-/
namespace ScriptProfiling
namespace ScriptInfo

open LineFacts

/-- A value that names a script: a path, or a text that is not empty. -/
inductive Names : Value → String → Prop where
  | path (name : String) : Names (.path name) name
  | text {name : String} (h : name ≠ "") : Names (.text name) name

/-- A sequence of lines of text. -/
inductive Holds : Value → List String → Prop where
  | list (lines : List String) : Holds (.list (lines.map .text)) lines
  | tuple (lines : List String) : Holds (.tuple (lines.map .text)) lines

/-- An item of a batch that pairs the name of a script with its lines. -/
inductive Payload : Value → String → List String → Prop where
  | list {path read : Value} {name : String} {lines : List String} (hname : Names path name)
    (hread : Holds read lines) : Payload (.list [path, read]) name lines
  | tuple {path read : Value} {name : String} {lines : List String} (hname : Names path name)
    (hread : Holds read lines) : Payload (.tuple [path, read]) name lines

section Checks

variable {room : Nat} {path read item : Value} {name : String} {lines : List String}
  {info : ScriptInfo} {fault : Fault}

theorem pathOf_eq_ok : pathOf room path = .ok name ↔ Names path name := by
  constructor
  · intro h
    unfold pathOf at h
    split at h
    · obtain rfl := Except.ok.inj h
      exact .path _
    · split at h
      · cases h
      · next hne =>
        obtain rfl := Except.ok.inj h
        exact .text (by simpa using hne)
    · obtain ⟨written, -, h⟩ := bind_eq_ok.mp h
      cases h
  · intro h
    cases h with
    | path => rfl
    | text hne => exact if_neg (by simpa using hne)

theorem lineOf_eq_ok {line : Value} {text : String} :
    lineOf name line = .ok text ↔ line = .text text := by
  cases line <;> simp [lineOf]

theorem mapM_lineOf_eq_ok {xs : List Value} :
    xs.mapM (lineOf name) = .ok lines ↔ xs = lines.map .text := by
  constructor
  · intro h
    have hall : lines.map Value.text = xs.map id :=
      map_of_mapM (fun x _ text hx => (lineOf_eq_ok.mp hx).symm) h
    rw [hall, List.map_id]
  · rintro rfl
    rw [List.mapM_map]
    exact (mapM_eq_ok fun _ _ => rfl).trans (by rw [List.map_id'])

theorem linesOf_eq_ok : linesOf name read = .ok lines ↔ Holds read lines := by
  constructor
  · intro h
    unfold linesOf at h
    split at h
    · obtain rfl := mapM_lineOf_eq_ok.mp h
      exact .list lines
    · obtain rfl := mapM_lineOf_eq_ok.mp h
      exact .tuple lines
    · cases h
  · intro h
    cases h <;> exact mapM_lineOf_eq_ok.mpr rfl

theorem Holds.unique (h : Holds read lines) {others : List String} (hothers : Holds read others) :
    lines = others := by
  have hlines : linesOf "" read = .ok lines := linesOf_eq_ok.mpr h
  exact Except.ok.inj (hlines.symm.trans (linesOf_eq_ok.mpr hothers))

theorem ofValues_of_names (hname : Names path name) (hread : Holds read lines) :
    ofValues room path read = ofLines name lines := by
  rw [ofValues, pathOf_eq_ok.mpr hname, ok_bind, linesOf_eq_ok.mpr hread, ok_bind]

theorem exists_of_ofValues (h : ofValues room path read = .ok info) :
    ∃ name lines, Names path name ∧ Holds read lines := by
  obtain ⟨name, hname, h⟩ := bind_eq_ok.mp h
  obtain ⟨lines, hlines, -⟩ := bind_eq_ok.mp h
  exact ⟨name, lines, pathOf_eq_ok.mp hname, linesOf_eq_ok.mp hlines⟩

theorem items?_cases {xs : List Value} (h : item.items? = some xs) :
    item = .list xs ∨ item = .tuple xs ∨ ∀ x ∈ xs, ∀ lines, ¬ Holds x lines := by
  have hscalars : ∀ {α : Type} (ys : List α) (g : α → Value), (∀ y lines, ¬ Holds (g y) lines) →
      ∀ x ∈ ys.map g, ∀ lines, ¬ Holds x lines := by
    intro α ys g hg
    simpa using fun y _ => hg y
  unfold Value.items? at h
  split at h
  · exact Or.inl (congrArg Value.list (Option.some.inj h))
  · exact Or.inr (Or.inl (congrArg Value.tuple (Option.some.inj h)))
  · obtain rfl := Option.some.inj h
    exact Or.inr (Or.inr (hscalars _ _ fun _ _ hholds => by cases hholds))
  · obtain rfl := Option.some.inj h
    exact Or.inr (Or.inr (hscalars _ _ fun _ _ hholds => by cases hholds))
  · obtain rfl := Option.some.inj h
    exact Or.inr (Or.inr (hscalars _ _ fun _ _ hholds => by cases hholds))
  · cases h

theorem items?_of_pair (h : item.pair = .ok (path, read)) : item.items? = some [path, read] := by
  unfold Value.pair at h
  split at h
  · cases h
  · next hitems =>
    obtain ⟨rfl, rfl⟩ := Prod.mk.inj (Except.ok.inj h)
    exact hitems
  · cases h

theorem ofItem_of_payload (h : Payload item name lines) :
    ofItem room item = ofLines name lines := by
  cases h <;> next hname hread => exact ofValues_of_names hname hread

theorem payload_of_ofItem (h : ofItem room item = .ok info) :
    ∃ name lines, Payload item name lines := by
  obtain ⟨⟨path, read⟩, hpair, h⟩ := bind_eq_ok.mp h
  obtain ⟨name, lines, hname, hread⟩ := exists_of_ofValues h
  rcases items?_cases (items?_of_pair hpair) with rfl | rfl | hnone
  · exact ⟨name, lines, .list hname hread⟩
  · exact ⟨name, lines, .tuple hname hread⟩
  · exact absurd hread (hnone read (by simp) lines)

theorem accepted?_eq_some : accepted? room item = some info ↔
    ∃ name lines, Payload item name lines ∧ (∀ line ∈ lines, ¬ Overlong line) ∧
      ofFacts name lines (lines.map told) = info := by
  have hitem : accepted? room item = some info ↔ ofItem room item = .ok info := by
    rcases ofItem_cases room item with ⟨f, hof, -, haccepted⟩ | ⟨given, hof, -, haccepted⟩ <;>
      simp [hof, haccepted]
  rw [hitem]
  constructor
  · intro h
    obtain ⟨name, lines, hpayload⟩ := payload_of_ofItem h
    rw [ofItem_of_payload hpayload] at h
    exact ⟨name, lines, hpayload, ofLines_eq_ok_iff.mp h⟩
  · rintro ⟨name, lines, hpayload, h⟩
    rw [ofItem_of_payload hpayload]
    exact ofLines_eq_ok_iff.mpr h

/-- The name of a payload never has to be written out. -/
theorem Payload.shallow (h : Payload item name lines) : Shallow room item := by
  intro path read hpair
  have hitems := items?_of_pair hpair
  cases h <;> next hname hread => cases hitems; cases hname <;> nofun

theorem refusal?_of_payload {digits : Nat} (h : Payload item name lines)
    (hexcess : FirstExcess lines digits) :
    refusal? room item = some (.numeralTooLong digits) := by
  have herror : ofItem room item = .error (.numeralTooLong digits) := by
    rw [ofItem_of_payload h]
    exact ofLines_eq_error_iff.mpr ⟨digits, hexcess, rfl⟩
  rcases ofItem_cases room item with ⟨f, hof, hrefusal, -⟩ | ⟨info, hof, -, -⟩
  · obtain rfl := Except.error.inj (hof.symm.trans herror)
    exact hrefusal
  · cases hof.symm.trans herror

end Checks
end ScriptInfo

namespace Analyzer

open ScriptInfo LineFacts

/-- A script with a proper name and lines of text is analysed exactly if none of its waits
exceeds the limit of digits, and fails with the first that does. So a batch keeps the payloads
of which this is true, and leaves out the other ones with all that is no payload. Only what stands
in the place of a path without being one, deeper than the stack has room for, spoils the batch,
and with room for the nesting of its items nothing does. -/
theorem analyze_keeps (a : Analyzer) (items : List Value) :
    (∀ room path read name lines, Names path name → Holds read lines →
      (∀ info, ofValues room path read = .ok info ↔
        (∀ line ∈ lines, ¬ Overlong line) ∧ ofFacts name lines (lines.map told) = info) ∧
      ∀ fault, ofValues room path read = .error fault ↔
        ∃ digits, FirstExcess lines digits ∧ fault = .numeralTooLong digits) ∧
    (∀ room ≥ Value.itemsNesting items, ∀ item ∈ items, Shallow room item) ∧
    (∀ room item name lines, Payload item name lines → Shallow room item) ∧
    ∀ room, (∀ item ∈ items, Shallow room item) →
      ∃ scripts, (a.analyze room items).result = .ok scripts ∧
      Batch.Gathers room items scripts (a.analyze room items).state.warnings ∧
      (∀ item info, accepted? room item = some info ↔ ∃ name lines, Payload item name lines ∧
        (∀ line ∈ lines, ¬ Overlong line) ∧ ofFacts name lines (lines.map told) = info) ∧
      (∀ item ∈ items, ∀ name lines, Payload item name lines →
        (∀ line ∈ lines, ¬ Overlong line) → name ∈ scripts.keys) ∧
      ∀ item ∈ items, ∀ name lines digits, Payload item name lines → FirstExcess lines digits →
        refusal? room item = some (.numeralTooLong digits) ∧
        Batch.warning (.numeralTooLong digits) ∈ (a.analyze room items).state.warnings := by
  refine ⟨fun room path read name lines hname hread => ?_, fun room => shallow_of_nesting,
    fun room item name lines => Payload.shallow, fun room hshallow => ?_⟩
  · rw [ofValues_of_names hname hread]
    exact ⟨fun _ => ofLines_eq_ok_iff, fun _ => ofLines_eq_error_iff⟩
  · obtain ⟨scripts, hscripts, hgathers⟩ := a.exists_gathers hshallow
    refine ⟨scripts, hscripts, hgathers, fun _ _ => accepted?_eq_some,
      fun item hitem name lines hpayload hshort => ?_,
      fun item hitem name lines digits hpayload hexcess => ?_⟩
    · have haccepted : accepted? room item = some _ :=
        accepted?_eq_some.mpr ⟨name, lines, hpayload, hshort, rfl⟩
      rw [hgathers.keys, List.mem_eraseDups]
      exact List.mem_map_of_mem (List.mem_filterMap.mpr ⟨item, hitem, haccepted⟩)
    · have hrefusal : refusal? room item = some _ := refusal?_of_payload hpayload hexcess
      refine ⟨hrefusal, ?_⟩
      rw [hgathers.warnings]
      exact List.mem_map_of_mem (List.mem_filterMap.mpr ⟨item, hitem, hrefusal⟩)

/-- Lines of which two exceed the limit of digits. -/
def longLines : List String := ["on join:", longLine "\t" 4301, longLine "" 5000]

/-- A script that exceeds the limit, one that does not, and an item that is no script. -/
def payloadItems : List Value :=
  [.list [.text "long.sk", .tuple (longLines.map .text)],
    .tuple [.path "kept.sk", .list (["wait 2 ticks"].map .text)], .int 5]

/-- The first line that exceeds the limit makes its script fail, and the other script is kept. -/
theorem analyze_keeps_payloadItems :
    ofValues 0 (.text "long.sk") (.tuple (longLines.map .text)) = .error (.numeralTooLong 4301) ∧
    ∃ scripts, (fresh.analyze 5 payloadItems).result = .ok scripts ∧ "kept.sk" ∈ scripts.keys ∧
      Batch.warning (.numeralTooLong 4301) ∈ (fresh.analyze 5 payloadItems).state.warnings := by
  have hexcess : FirstExcess longLines 4301 := by
    refine ⟨["on join:"], longLine "\t" 4301, [longLine "" 5000], rfl, ?_, ?_⟩
    · rw [List.forall_mem_singleton]
      decide +kernel
    · exact exceeds_longLine (by decide) (by decide) (by decide +kernel)
  have hlong : Names (.text "long.sk") "long.sk" := .text (by decide)
  obtain ⟨hvalues, henough, -, hbatch⟩ := analyze_keeps fresh payloadItems
  obtain ⟨scripts, hresult, -, -, hkept, hrefused⟩ := hbatch 5 (henough 5 (by decide +kernel))
  refine ⟨?_, scripts, hresult, ?_, ?_⟩
  · exact ((hvalues 0 _ _ _ _ hlong (.tuple _)).2 _).mpr ⟨4301, hexcess, rfl⟩
  · apply hkept (.tuple _) (List.mem_cons_of_mem _ List.mem_cons_self) _ _
      (.tuple (.path "kept.sk") (.list ["wait 2 ticks"]))
    rw [List.forall_mem_singleton]
    decide +kernel
  · have hitem := (hrefused (.list _) List.mem_cons_self _ _ 4301 (.list hlong (.tuple longLines)))
    exact (hitem hexcess).2

end Analyzer
end ScriptProfiling
