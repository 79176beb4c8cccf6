import ScriptProfiling.Proofs.Detection.Origin
import ScriptProfiling.Proofs.Script.Concatenation
import ScriptProfiling.Proofs.Script.Statement
import ScriptProfiling.Proofs.Script.Waits

/-!
# Units of waits

Analysis reads the unit of a wait letter by letter, in any form of each letter; the rule for long
waits looks up the lower case of the unit. The two agree on all forms of letters but three, which
lower case does not lead back to a plain letter. A wait with one of these is a statement like any
other for analysis, and none for the rule.
-/
namespace ScriptProfiling

/-- Units of time with the ticks in each. -/
def timeUnits : List (String × Int) := [("tick", 1), ("second", 20), ("minute", 1200)]

theorem toNat_lt_of_timeUnits : ∀ unit ∈ timeUnits, ∀ d ∈ unit.1.toList, d.toNat < 128 := by
  have hplain : (timeUnits.all fun unit => unit.1.toList.all (·.toNat < 128)) = true := by decide
  simpa only [List.all_eq_true, decide_eq_true_eq] using hplain

theorem ticksPerUnit?_eq_some {cs : List Char} {ticks : Int} :
    ticksPerUnit? cs = some ticks ↔ (String.ofList cs, ticks) ∈ timeUnits := by
  unfold ticksPerUnit?
  split
  · next h => simp [h, timeUnits, eq_comm]
  · next h => simp [h, timeUnits, eq_comm]
  · next h => simp [h, timeUnits, eq_comm]
  · next htick hsecond hminute =>
    refine iff_of_false (fun h => by cases h) fun hmem => ?_
    simp only [timeUnits, List.mem_cons, Prod.mk.injEq, List.not_mem_nil, or_false] at hmem
    rcases hmem with ⟨h, -⟩ | ⟨h, -⟩ | ⟨h, -⟩
    · exact htick h
    · exact hsecond h
    · exact hminute h

namespace Line

/-- The capital with a dot, the small letter without one and the long letter are forms of plain
letters of which lower case makes something else. -/
def isForeign (c : Char) : Bool := c.toNat == 0x130 || c.toNat == 0x131 || c.toNat == 0x17f

section Letters

variable {letter c : Char} {word cs : List Char}

theorem lowerChar_of_isLetter (hletter : letter.toNat < 128) (h : isLetter letter c = true)
    (hc : isForeign c = false) : c.toNat ≠ 0x3a3 ∧ lowerChar c = [letter] := by
  have hof : ∀ {n : Nat}, c.toNat = n → c = Char.ofNat n := fun hn => by rw [← hn, Char.ofNat_toNat]
  simp only [isForeign, Bool.or_eq_false_iff, beq_eq_false_iff_ne] at hc
  obtain ⟨⟨hdotted, hdotless⟩, hlong⟩ := hc
  simp only [isLetter, Bool.or_eq_true, Bool.and_eq_true, beq_iff_eq] at h
  rcases h with ((hlower | ⟨rfl, hdot⟩) | ⟨rfl, hs⟩) | ⟨rfl, hkelvin⟩
  · have hlt : c.toNat < 128 := toNat_lt_of_toLower (hlower ▸ hletter)
    exact ⟨by omega, hlower ▸ lowerChar_of_lt hlt⟩
  · exact absurd hdot (not_or.mpr ⟨hdotted, hdotless⟩)
  · exact absurd hs hlong
  · rw [hof hkelvin]
    decide +kernel

/-- Lower case keeps a foreign letter out of the plain ones. -/
theorem lowerChar_of_isForeign (hc : isForeign c = true) :
    c.toNat ≠ 0x3a3 ∧ ∃ d ∈ lowerChar c, 128 ≤ d.toNat := by
  have hforeign : ∀ n ∈ [0x130, 0x131, 0x17f],
      n ≠ 0x3a3 ∧ (lowerChar (Char.ofNat n)).any (128 ≤ ·.toNat) = true := by decide +kernel
  have hlisted : c.toNat ∈ [0x130, 0x131, 0x17f] := by
    simpa [isForeign, or_assoc] using hc
  obtain ⟨hsigma, hany⟩ := hforeign _ hlisted
  rw [Char.ofNat_toNat] at hany
  exact ⟨hsigma, by simpa using hany⟩

theorem lowercase_of_spells (hword : ∀ letter ∈ word, letter.toNat < 128) (h : Spells word cs)
    (hcs : ∀ c ∈ cs, isForeign c = false) : lowercase cs = word := by
  have hafter : ∀ before, lowerAfter before cs = word := by
    induction h with
    | nil => exact fun _ => rfl
    | cons hletter _ ih =>
      intro before
      rw [List.forall_mem_cons] at hword hcs
      obtain ⟨hsigma, hlower⟩ := lowerChar_of_isLetter hword.1 hletter hcs.1
      rw [lowerAfter_cons hsigma, hlower, ih hword.2 hcs.2]
      rfl
  exact hafter []

theorem exists_mem_lowercase (hc : c ∈ cs) (hforeign : isForeign c = true) :
    ∃ d ∈ lowercase cs, 128 ≤ d.toNat := by
  obtain ⟨hsigma, d, hd, hle⟩ := lowerChar_of_isForeign hforeign
  exact ⟨d, mem_lowerAfter hsigma hd [] hc, hle⟩

end Letters

theorem wait?_eq_some {cs : List Char} {raw : RawWait} (h : wait? cs = some raw) :
    ∃ name ∈ waitUnits, SpellsUnit name raw.unit := by
  obtain ⟨s, -, rfl⟩ := wait?_eq_some_iff.mp h
  exact s.wording.spells_unit

end Line

open Line

theorem toNat_lt_of_ticksPerUnit? {cs : List Char} {ticks : Int}
    (h : ticksPerUnit? cs = some ticks) : ∀ d ∈ cs, d.toNat < 128 := by
  intro d hd
  exact toNat_lt_of_timeUnits _ (ticksPerUnit?_eq_some.mp h) d (by rwa [String.toList_ofList])

/-- A unit in lower case, without its plural ending. -/
def singular (small : List Char) : List Char :=
  if small.getLast? = some 's' then small.dropLast else small

theorem mem_singular {small : List Char} {d : Char} (hd : d ∈ small) (hs : d ≠ 's') :
    d ∈ singular small := by
  unfold singular
  split
  · next hlast =>
    obtain ⟨before, rfl⟩ := List.getLast?_eq_some_iff.mp hlast
    rw [List.dropLast_concat]
    rcases List.mem_append.mp hd with hd | hd
    · exact hd
    · exact absurd (List.mem_singleton.mp hd) hs
  · exact hd

theorem waitTicks?_of_spells {name unit : String} {perUnit amount : Int}
    (hname : (name, perUnit) ∈ timeUnits) (h : SpellsUnit name unit.toList) :
    waitTicks? amount unit =
      if unit.toList.any isForeign then none else some (amount * perUnit) := by
  change (ticksPerUnit? (singular (lowercase unit.toList))).map (amount * ·) = _
  split
  · next hforeign =>
    obtain ⟨c, hc, hforeign⟩ := List.any_eq_true.mp hforeign
    obtain ⟨d, hd, hle⟩ := exists_mem_lowercase hc hforeign
    have hmem := mem_singular hd (fun hs => by subst hs; revert hle; decide)
    cases hticks : ticksPerUnit? (singular (lowercase unit.toList)) with
    | none => rfl
    | some ticks =>
      have hlt := toNat_lt_of_ticksPerUnit? hticks d hmem
      omega
  · next hplain =>
    have hcs : ∀ c ∈ unit.toList, isForeign c = false := by simpa using hplain
    have hunits : ∀ u ∈ timeUnits, singular u.1.toList = u.1.toList ∧
        singular (u.1.toList ++ ['s']) = u.1.toList := by decide
    obtain ⟨hsingle, hplural⟩ := hunits _ hname
    have hletters : ∀ c ∈ name.toList, c.toNat < 128 := toNat_lt_of_timeUnits _ hname
    have hending : ∀ c ∈ ['s'], c.toNat < 128 := List.forall_mem_singleton.mpr (by decide)
    have hlower : singular (lowercase unit.toList) = name.toList := by
      rcases h with h | h
      · rw [lowercase_of_spells hletters h hcs]
        exact hsingle
      · rw [lowercase_of_spells (List.forall_mem_append.mpr ⟨hletters, hending⟩) h hcs]
        exact hplural
    have hticks : ticksPerUnit? name.toList = some perUnit :=
      ticksPerUnit?_eq_some.mpr (by rwa [String.ofList_toList])
    rw [hlower, hticks]
    rfl

namespace LineFacts

theorem spellsUnit_of_waitOf {raw : RawWait} {w : Wait} (h : waitOf raw = .ok w) {name : String}
    (hspells : SpellsUnit name raw.unit) : SpellsUnit name w.unit.toList := by
  unfold waitOf at h
  split at h
  · cases h
  · obtain rfl := Except.ok.inj h
    rwa [String.toList_ofList]

end LineFacts

namespace ScriptInfo

theorem exists_line_of_wait {path : String} {lines : List String} {info : ScriptInfo}
    (h : ofLines path lines = .ok info) {number : Int} {w : Wait}
    (hw : info.waits.get? number = some w) :
    ∃ line ∈ lines, ∃ f, LineFacts.ofLine line = .ok f ∧ f.wait? = some w ∧
      info.labels.get? number = some f.labels := by
  obtain ⟨facts, hfacts, rfl⟩ := ofLines_eq_ok.mp h
  obtain ⟨n, rfl⟩ := exists_number_of_wait hw
  rw [get?_waits] at hw
  obtain ⟨f, hf, hwait⟩ := Option.bind_eq_some_iff.mp hw
  obtain ⟨line, hline, hof⟩ := exists_of_mem_mapM hfacts (List.mem_of_getElem? hf)
  have hlabels : labels? f = some f.labels := by simp [labels?, LineFacts.labels, hwait]
  refine ⟨line, hline, f, hof, hwait, ?_⟩
  rw [get?_labels, hf]
  exact hlabels

/-- Each wait that analysis stores is one of its line's labels and names a unit of time. The
detector knows how many ticks it is, and the rule for long waits judges it by them, unless it is
written with a foreign letter: such a wait is passed over, however long it is. -/
theorem ofValues_waits {room : Nat} {path : Value} {lines : List String} {info : ScriptInfo}
    (h : ofValues room path (valueOf lines) = .ok info) {number : Int} {w : Wait}
    (hw : info.waits.get? number = some w) :
    (∃ found, info.labels.get? number = some found ∧ .wait w ∈ found) ∧
    ∃ name perUnit, (name, perUnit) ∈ timeUnits ∧ SpellsUnit name w.unit.toList ∧
      w.ticks? = (if w.unit.toList.any isForeign then none else some (w.amount * perUnit)) ∧
      ∀ t : Thresholds, Detection.waitSite t info number =
        if !w.unit.toList.any isForeign && Detection.aboveLimit (w.amount * perUnit) t.waitTicks
        then some ⟨.longWait, .low, info.path, number, none⟩ else none := by
  obtain ⟨_, -, h⟩ := ofValues_eq_ok.mp h
  obtain ⟨line, -, f, hof, hwait, hlabels⟩ := exists_line_of_wait h hw
  obtain ⟨raw, hraw, hwaitOf⟩ := LineFacts.exists_raw_of_wait hof hwait
  obtain ⟨name, hname, hspelled⟩ := wait?_eq_some hraw
  have hspells := LineFacts.spellsUnit_of_waitOf hwaitOf hspelled
  have hunits : ∀ name ∈ waitUnits, ∃ perUnit, (name, perUnit) ∈ timeUnits := by
    simp [waitUnits, timeUnits]
  obtain ⟨perUnit, hunit⟩ := hunits name hname
  have hticks : waitTicks? w.amount w.unit = _ := waitTicks?_of_spells hunit hspells
  change w.ticks? = _ at hticks
  refine ⟨⟨_, hlabels, by simp [LineFacts.labels, hwait]⟩, name, perUnit, hunit, hspells, hticks,
    fun t => ?_⟩
  rw [Detection.waitSite, hw, Option.bind_some, hticks]
  cases w.unit.toList.any isForeign <;> rfl

/-- Two long waits, of which the second one ends in a foreign letter. -/
def slowLines : List String := ["wait 300 TIC\u212aS", "\twait 10 minuteſ"]

theorem ofValues_waits_slow :
    ∃ info, ofValues 0 (.text "slow.sk") (valueOf slowLines) = .ok info ∧
      (∃ w, info.waits.get? 1 = some w ∧ w.ticks? = some 300 ∧
        Detection.waitSite default info 1 = some ⟨.longWait, .low, "slow.sk", 1, none⟩) ∧
      ∃ w, info.waits.get? 2 = some w ∧ w.amount = 10 ∧ SpellsUnit "minute" w.unit.toList ∧
        w.ticks? = none ∧ (∀ t, Detection.waitSite t info 2 = none) ∧
        ∃ found, info.labels.get? 2 = some found ∧ .wait w ∈ found := by
  have hseen : ((ofValues 0 (.text "slow.sk") (valueOf slowLines)).toOption.map
      fun info => (info.path, info.waits.get? 1, info.waits.get? 2)) =
        some ("slow.sk", some ⟨300, "TIC\u212aS"⟩, some ⟨10, "minuteſ"⟩) := by
    decide +kernel
  obtain ⟨info, hinfo, hfacts⟩ := Option.map_eq_some_iff.mp hseen
  obtain ⟨hpath, hfacts⟩ := Prod.mk.inj hfacts
  obtain ⟨hfirst, hsecond⟩ := Prod.mk.inj hfacts
  have hok := toOption_eq_some.mp hinfo
  obtain ⟨-, name, perUnit, hunit, hspells, hticks, hjudged⟩ := ofValues_waits hok hfirst
  obtain ⟨hlabelled, minute, perMinute, hminute, hspellsMinute, hunknown, hignored⟩ :=
    ofValues_waits hok hsecond
  have htick : ∀ unit ∈ timeUnits, SpellsUnit unit.1 "TIC\u212aS".toList →
      unit = ("tick", 1) := by decide +kernel
  have hlong : ∀ unit ∈ timeUnits, SpellsUnit unit.1 "minuteſ".toList →
      unit = ("minute", 1200) := by decide +kernel
  obtain ⟨rfl, rfl⟩ := Prod.mk.inj (htick _ hunit hspells)
  obtain ⟨rfl, rfl⟩ := Prod.mk.inj (hlong _ hminute hspellsMinute)
  refine ⟨info, hok, ⟨_, hfirst, hticks, ?_⟩, _, hsecond, rfl, hspellsMinute, hunknown, hignored,
    hlabelled⟩
  rw [hjudged, hpath]
  rfl

end ScriptInfo
end ScriptProfiling
