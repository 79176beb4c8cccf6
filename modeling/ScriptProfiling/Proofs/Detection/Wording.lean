import ScriptProfiling.Detection
import ScriptProfiling.Proofs.Markup.Number
import ScriptProfiling.Proofs.Text.Lowercase

/-!
# The words of issues

What detection tells of an issue are fixed words and numbers, and the unit of a wait, which is
one of three. None of it looks like markup.
-/
namespace ScriptProfiling

/-- The words of an issue are quiet and stand on one line each. -/
structure Issue.Plain (i : Issue) : Prop where
  description : Tame i.description.toList
  suggestion : Tame i.suggestion.toList

section Units

variable {c : Char} {cs : List Char}

theorem mem_lowercase (hc : isTame c = false) (h : c ∈ cs) : c ∈ lowercase cs := by
  have hfour : c = '[' ∨ c = ']' ∨ c = '\\' ∨ c = '\n' := by
    by_contra hnot
    rw [not_or, not_or, not_or] at hnot
    simp [isTame, isQuiet, isBracket, isBackslash, hnot] at hc
  have hlower : c.toNat ≠ 0x3a3 ∧ c ∈ lowerChar c := by
    rcases hfour with rfl | rfl | rfl | rfl
    · exact ⟨by decide, by decide⟩
    · exact ⟨by decide, by decide⟩
    · exact ⟨by decide, by decide⟩
    · exact ⟨by decide, by decide⟩
  exact mem_lowerAfter hlower.1 hlower.2 [] h

theorem tame_of_lowercase (h : Tame (lowercase cs)) : Tame cs := by
  intro c hc
  cases htame : isTame c with
  | true => rfl
  | false => exact (htame.symm.trans (h c (mem_lowercase htame hc)))

theorem tame_of_ticksPerUnit? {ticks : Int} (h : ticksPerUnit? cs = some ticks) : Tame cs := by
  unfold ticksPerUnit? at h
  rw [← String.toList_ofList (l := cs)]
  split at h
  · next heq => rw [heq]; decide
  · next heq => rw [heq]; decide
  · next heq => rw [heq]; decide
  · cases h

theorem Wait.tame_unit {w : Wait} {ticks : Int} (h : w.ticks? = some ticks) :
    Tame w.unit.toList := by
  obtain ⟨perUnit, hunit, -⟩ := Option.map_eq_some_iff.mp h
  have hsingle := tame_of_ticksPerUnit? hunit
  refine tame_of_lowercase ?_
  split at hsingle
  · next hlast =>
    obtain ⟨before, hbefore⟩ := List.getLast?_eq_some_iff.mp hlast
    rw [hbefore, List.dropLast_concat] at hsingle
    rw [hbefore]
    exact List.forall_mem_append.mpr ⟨hsingle, (by decide : Tame ['s'])⟩
  · exact hsingle

end Units

namespace Detection

section Rules

variable {metrics : Metrics} {t : Thresholds} {r : Record Int} {s : ScriptInfo} {line : Int}
  {issues : List Issue}

theorem plain_nil : ∀ i ∈ ([] : List Issue), i.Plain := by
  intro i hi
  exact absurd hi List.not_mem_nil

theorem plain_slowEvent (average longest : Binary64) :
    ∀ i ∈ slowEvent t r average longest, i.Plain := by
  unfold slowEvent
  split
  · refine List.forall_mem_singleton.mpr ⟨?_, ?_⟩
    · simp only [ofRecord, msText, tame_append, tame_fixedText]
      decide
    · exact tame_append.mpr ⟨tame_ofList rfl, tame_ofList rfl⟩
  · split
    · refine List.forall_mem_singleton.mpr ⟨?_, ?_⟩
      · simp only [ofRecord, msText, tame_append, tame_fixedText]
        decide
      · exact tame_append.mpr ⟨tame_ofList rfl, tame_ofList rfl⟩
    · exact plain_nil

theorem plain_highFrequency (h : highFrequency t r = .ok issues) : ∀ i ∈ issues, i.Plain := by
  unfold highFrequency at h
  split at h
  · obtain ⟨total, -, h⟩ := bind_eq_ok.mp h
    obtain ⟨count, hcount, h⟩ := bind_eq_ok.mp h
    obtain rfl := pure_eq_ok.mp h
    refine List.forall_mem_singleton.mpr ⟨?_, ?_⟩
    · simp only [ofRecord, msText, tame_append, tame_fixedText, tame_wholeTextLimited hcount]
      decide
    · exact tame_append.mpr ⟨tame_ofList rfl, tame_ofList rfl⟩
  · obtain rfl := Except.ok.inj h
    exact plain_nil

theorem plain_checkRecord (h : checkRecord t r = .ok issues) : ∀ i ∈ issues, i.Plain := by
  obtain ⟨average, -, h⟩ := bind_eq_ok.mp h
  obtain ⟨longest, -, h⟩ := bind_eq_ok.mp h
  obtain ⟨frequent, hfrequent, h⟩ := bind_eq_ok.mp h
  obtain rfl := pure_eq_ok.mp h
  exact List.forall_mem_append.mpr ⟨plain_slowEvent average longest, plain_highFrequency hfrequent⟩

theorem plain_inefficientLoop (h : inefficientLoop t metrics s line = .ok issues) :
    ∀ i ∈ issues, i.Plain := by
  unfold inefficientLoop at h
  split at h
  · obtain rfl := Except.ok.inj h
    exact plain_nil
  · split at h
    · obtain ⟨count, hcount, h⟩ := bind_eq_ok.mp h
      obtain rfl := pure_eq_ok.mp h
      refine List.forall_mem_singleton.mpr ⟨?_, ?_⟩
      · simp only [tame_append, tame_wholeTextLimited hcount]
        decide
      · exact tame_append.mpr ⟨tame_ofList rfl, tame_ofList rfl⟩
    · obtain rfl := Except.ok.inj h
      exact plain_nil

theorem plain_longWait (h : longWait t s line = .ok issues) : ∀ i ∈ issues, i.Plain := by
  unfold longWait at h
  split at h
  · obtain rfl := Except.ok.inj h
    exact plain_nil
  · split at h
    · obtain rfl := Except.ok.inj h
      exact plain_nil
    · next ticks hticks =>
      split at h
      · obtain ⟨amount, hamount, h⟩ := bind_eq_ok.mp h
        obtain ⟨told, htold, h⟩ := bind_eq_ok.mp h
        obtain rfl := pure_eq_ok.mp h
        refine List.forall_mem_singleton.mpr ⟨?_, ?_⟩
        · simp only [tame_append, tame_wholeTextLimited hamount, tame_wholeTextLimited htold,
            Wait.tame_unit hticks]
          decide
        · exact tame_ofList rfl
      · obtain rfl := Except.ok.inj h
        exact plain_nil

theorem plain_excessiveVariables (h : excessiveVariables t s = .ok issues) :
    ∀ i ∈ issues, i.Plain := by
  unfold excessiveVariables at h
  split at h
  · obtain ⟨count, hcount, h⟩ := bind_eq_ok.mp h
    obtain rfl := pure_eq_ok.mp h
    refine List.forall_mem_singleton.mpr ⟨?_, ?_⟩
    · simp only [tame_append, tame_wholeTextLimited hcount]
      decide
    · exact tame_append.mpr ⟨tame_ofList rfl, tame_ofList rfl⟩
  · obtain rfl := Except.ok.inj h
    exact plain_nil

theorem plain_flatten {blocks : List (List Issue)} (h : ∀ issues ∈ blocks, ∀ i ∈ issues, i.Plain) :
    ∀ i ∈ blocks.flatten, i.Plain := by
  intro i hi
  obtain ⟨issues, hissues, hi⟩ := List.mem_flatten.mp hi
  exact h issues hissues i hi

theorem plain_checkScript (h : checkScript t metrics s = .ok issues) : ∀ i ∈ issues, i.Plain := by
  obtain ⟨lines, hlines, h⟩ := bind_eq_ok.mp h
  obtain ⟨accesses, haccesses, h⟩ := bind_eq_ok.mp h
  obtain rfl := pure_eq_ok.mp h
  refine List.forall_mem_append.mpr ⟨plain_flatten fun found hfound => ?_,
    plain_excessiveVariables haccesses⟩
  obtain ⟨line, -, hline⟩ := exists_of_mem_mapM hlines hfound
  obtain ⟨loops, hloops, hline⟩ := bind_eq_ok.mp hline
  obtain ⟨waits, hwaits, hline⟩ := bind_eq_ok.mp hline
  obtain rfl := pure_eq_ok.mp hline
  exact List.forall_mem_append.mpr ⟨plain_inefficientLoop hloops, plain_longWait hwaits⟩

theorem plain_checkLoad {load : Number} (h : checkLoad t metrics load = .ok issues) :
    ∀ i ∈ issues, i.Plain := by
  unfold checkLoad at h
  split at h
  · obtain rfl := Except.ok.inj h
    exact plain_nil
  · split at h
    · obtain rfl := Except.ok.inj h
      exact plain_nil
    · obtain ⟨now, hnow, h⟩ := bind_eq_ok.mp h
      obtain ⟨limit, hlimit, h⟩ := bind_eq_ok.mp h
      obtain ⟨total, -, h⟩ := bind_eq_ok.mp h
      obtain rfl := pure_eq_ok.mp h
      refine List.forall_mem_singleton.mpr ⟨?_, ?_⟩
      · simp only [ofRecord, msText, tame_append, tame_fixedText, tame_hundredths hnow,
          tame_hundredths hlimit]
        decide
      · exact tame_append.mpr ⟨tame_ofList rfl, tame_ofList rfl⟩

theorem plain_found {scripts : Scripts} {load : Value}
    (h : found metrics scripts t load = .ok issues) : ∀ i ∈ issues, i.Plain := by
  obtain ⟨records, hrecords, h⟩ := bind_eq_ok.mp h
  obtain ⟨analysed, hanalysed, h⟩ := bind_eq_ok.mp h
  obtain ⟨usable, -, h⟩ := bind_eq_ok.mp h
  have hrecordsPlain : ∀ i ∈ records.flatten, i.Plain := by
    refine plain_flatten fun found hfound => ?_
    obtain ⟨r, -, hr⟩ := exists_of_mem_mapM hrecords hfound
    exact plain_checkRecord hr
  have hscriptsPlain : ∀ i ∈ analysed.flatten, i.Plain := by
    refine plain_flatten fun found hfound => ?_
    obtain ⟨s, -, hs⟩ := exists_of_mem_mapM hanalysed hfound
    exact plain_checkScript hs
  have hboth := List.forall_mem_append.mpr ⟨hrecordsPlain, hscriptsPlain⟩
  cases usable with
  | none =>
    obtain rfl := pure_eq_ok.mp h
    exact List.forall_mem_append.mpr ⟨hboth, plain_nil⟩
  | some load =>
    obtain ⟨strained, hstrained, h⟩ := bind_eq_ok.mp h
    obtain rfl := pure_eq_ok.mp h
    exact List.forall_mem_append.mpr ⟨hboth, plain_checkLoad hstrained⟩

end Rules

end Detection

theorem plain_detect {metrics : Metrics} {scripts : Scripts} {t : Thresholds} {load : Value}
    {issues : List Issue} (h : detect metrics scripts t load = .ok issues) :
    ∀ i ∈ issues, i.Plain := by
  obtain ⟨found, hfound, rfl⟩ := map_eq_ok.mp h
  intro i hi
  exact Detection.plain_found hfound i (List.mem_mergeSort.mp hi)

end ScriptProfiling
