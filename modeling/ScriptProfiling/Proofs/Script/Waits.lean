import ScriptProfiling.Proofs.Catalog
import ScriptProfiling.Proofs.Number.Numeral
import ScriptProfiling.Proofs.Partial
import ScriptProfiling.Script.Analysis

/-!
# Waits are read under the limit of digits

A wait whose amount has too many digits spoils its script, so in every script that a batch
has taken in the amounts can be written again.
-/
namespace ScriptProfiling

/-- The amounts of a script's waits can be written. -/
def ScriptInfo.ShortAmounts (s : ScriptInfo) : Prop :=
  ∀ line w, s.waits.get? line = some w → WithinDigits w.amount

namespace LineFacts

theorem withinDigits_of_waitOf {raw : Line.RawWait} {w : Wait} (h : waitOf raw = .ok w) :
    WithinDigits w.amount := by
  unfold waitOf at h
  split at h
  · cases h
  · next hlength =>
    obtain rfl := Except.ok.inj h
    exact withinDigits_digitsValue (Nat.not_lt.mp hlength)

theorem exists_raw_of_wait {line : String} {f : LineFacts} {w : Wait} (h : ofLine line = .ok f)
    (hw : f.wait? = some w) : ∃ raw, Line.wait? line.toList = some raw ∧ waitOf raw = .ok w := by
  unfold ofLine at h
  dsimp only at h
  split at h
  · next raw hraw =>
    obtain ⟨wait, hwait, h⟩ := bind_eq_ok.mp h
    obtain ⟨v, hv, rfl⟩ := map_eq_ok.mp hwait
    obtain rfl := pure_eq_ok.mp h
    obtain rfl := Option.some.inj hw
    exact ⟨raw, hraw, hv⟩
  · obtain rfl := pure_eq_ok.mp h
    cases hw

theorem withinDigits_of_ofLine {line : String} {f : LineFacts} (h : ofLine line = .ok f) :
    ∀ w ∈ f.wait?, WithinDigits w.amount := by
  intro w hw
  obtain ⟨_, -, hwait⟩ := exists_raw_of_wait h hw
  exact withinDigits_of_waitOf hwait

end LineFacts

namespace ScriptInfo

theorem mem_of_mem_numbered {α : Type} {xs : List α} {start : Int} {row : Int × α}
    (h : row ∈ numbered start xs) : row.2 ∈ xs := by
  induction xs generalizing start with
  | nil => cases h
  | cons x xs ih =>
    rcases List.mem_cons.mp h with rfl | h
    · exact List.mem_cons_self
    · exact List.mem_cons_of_mem x (ih h)

theorem shortAmounts_ofFacts {path : String} {lines : List String} {facts : List LineFacts}
    (h : ∀ f ∈ facts, ∀ w ∈ f.wait?, WithinDigits w.amount) :
    (ofFacts path lines facts).ShortAmounts := by
  intro line w hw
  have hmem := Catalog.mem_of_get?_ofList hw
  obtain ⟨row, hrow, hwait⟩ := List.mem_filterMap.mp hmem
  obtain ⟨v, hv, hpair⟩ := Option.map_eq_some_iff.mp hwait
  obtain ⟨-, rfl⟩ := Prod.mk.inj hpair
  exact h row.2 (mem_of_mem_numbered hrow) v hv

theorem shortAmounts_of_ofLines {path : String} {lines : List String} {info : ScriptInfo}
    (h : ofLines path lines = .ok info) : info.ShortAmounts := by
  obtain ⟨facts, hfacts, rfl⟩ := map_eq_ok.mp h
  refine shortAmounts_ofFacts fun f hf => ?_
  obtain ⟨line, -, hline⟩ := exists_of_mem_mapM hfacts hf
  exact LineFacts.withinDigits_of_ofLine hline

theorem shortAmounts_of_ofItem {room : Nat} {item : Value} {info : ScriptInfo}
    (h : ofItem room item = .ok info) : info.ShortAmounts := by
  obtain ⟨pair, -, h⟩ := bind_eq_ok.mp h
  obtain ⟨path, -, h⟩ := bind_eq_ok.mp h
  obtain ⟨lines, -, h⟩ := bind_eq_ok.mp h
  exact shortAmounts_of_ofLines h

end ScriptInfo

namespace Batch

theorem shortAmounts_add {room : Nat} {before after : Batch} {item : Value}
    (hbefore : ∀ info ∈ before.scripts.values, info.ShortAmounts)
    (h : before.add room item = .ok after) : ∀ info ∈ after.scripts.values, info.ShortAmounts := by
  unfold add at h
  split at h
  · next added hadded =>
    obtain rfl := Except.ok.inj h
    intro info hinfo
    rcases Catalog.mem_values_put hinfo with rfl | hinfo
    · exact ScriptInfo.shortAmounts_of_ofItem hadded
    · exact hbefore info hinfo
  · split at h
    · obtain rfl := Except.ok.inj h
      exact hbefore
    · cases h

theorem shortAmounts_addAll {room : Nat} {items : List Value} {b : Batch}
    (h : ∀ info ∈ b.scripts.values, info.ShortAmounts) :
    ∀ info ∈ (b.addAll room items).1.scripts.values, info.ShortAmounts := by
  induction items generalizing b with
  | nil => exact h
  | cons item items ih =>
    rw [addAll]
    split
    · next next hadd => exact ih (shortAmounts_add h hadd)
    · exact h

/-- The amounts of all scripts that a batch has taken in can be written. -/
theorem shortAmounts (room : Nat) (items : List Value) :
    ∀ info ∈ (ofItems room items).1.scripts.values, info.ShortAmounts :=
  shortAmounts_addAll nofun

end Batch
end ScriptProfiling
