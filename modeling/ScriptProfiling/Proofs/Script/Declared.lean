import ScriptProfiling.Proofs.Script.Concatenation
import ScriptProfiling.Proofs.Script.Payload
import ScriptProfiling.Proofs.Script.Trigger

/-!
# What analysis declares of each line

The waits and events of a script stand under the numbers of the lines that declare them, each
as the text of its line does, whatever else the line or the script declares.
-/
namespace ScriptProfiling

theorem Label.text_eq_event {l : Label} {trigger : String} :
    l.text = "Event: " ++ trigger ↔ l = .event trigger := by
  cases l <;> simp [Label.text, ← String.toList_inj]

namespace LineFacts

variable {f : LineFacts} {trigger : String}

theorem mem_texts_event :
    "Event: " ++ trigger ∈ f.labels.map Label.text ↔ f.event? = some trigger := by
  rw [List.mem_map]
  constructor
  · rintro ⟨l, hl, htext⟩
    obtain rfl := Label.text_eq_event.mp htext
    simpa [labels] using hl
  · intro h
    exact ⟨.event trigger, by simp [labels, h], rfl⟩

end LineFacts

namespace ScriptInfo

open Line LineFacts

section Rows

variable {path : String} {lines : List String} {facts : List LineFacts}

theorem mem_labels_iff {n : Nat} {f : LineFacts} (hf : facts[n]? = some f) {text : String} :
    (∃ found, (ofFacts path lines facts).labels.get? (n + 1) = some found ∧
      text ∈ found.map Label.text) ↔ text ∈ f.labels.map Label.text := by
  rw [get?_labels, hf, Option.bind_some, labels?]
  cases f.labels <;> simp [eq_comm]

theorem events_ofFacts : (ofFacts path lines (lines.map told)).events =
    lines.countP (fun line => Nonempty (Opening line.toList)) := by
  change countOf (·.event?.isSome) (lines.map told) = _
  rw [countOf, ← List.countP_eq_length_filter, List.countP_map]
  congr 1
  apply List.countP_congr
  intro line _
  simp [told, isSome_event?_iff]

end Rows

section Lines

variable {room : Nat} {path read : Value} {name : String} {lines : List String}
  {info : ScriptInfo}

theorem eq_ofFacts (hread : Holds read lines) (h : ofValues room path read = .ok info) :
    ∃ name, info = ofFacts name lines (lines.map told) := by
  obtain ⟨name, others, hname, hothers⟩ := exists_of_ofValues h
  obtain rfl := hothers.unique hread
  rw [ofValues_of_names hname hread] at h
  exact ⟨name, (ofLines_eq_ok_iff.mp h).2.symm⟩

/-- Analysis stores a wait for each line in which a statement stands and for no other one: that
of the leftmost statement, with the value of its whole run of digits and its unit as written. -/
theorem waits_leftmost (hread : Holds read lines) (h : ofValues room path read = .ok info) :
    (∀ number w, info.waits.get? number = some w ↔ ∃ (n : Nat) (line : String),
      number = n + 1 ∧ lines[n]? = some line ∧ ∃ s : Statement line.toList, s.Leftmost ∧
        Stops isDigit (s.wording.gap ++ (s.wording.unit ++ s.wording.after)) ∧
        w.amount = digitsValue s.wording.digits ∧ w.unit.toList = s.wording.unit) ∧
    ∀ (n : Nat) (line : String), lines[n]? = some line →
      ((info.waits.get? (n + 1)).isSome ↔ Nonempty (Statement line.toList)) := by
  obtain ⟨name, rfl⟩ := eq_ofFacts hread h
  have hwait : ∀ (n : Nat), (ofFacts name lines (lines.map told)).waits.get? (n + 1) =
      lines[n]?.bind fun line => (Line.wait? line.toList).map RawWait.wait := by
    intro n
    rw [get?_waits, List.getElem?_map, Option.bind_map]
    rfl
  refine ⟨fun number w => ?_, fun n line hline => ?_⟩
  · constructor
    · intro hw
      obtain ⟨n, rfl⟩ := exists_number_of_wait hw
      rw [hwait] at hw
      obtain ⟨line, hline, hw⟩ := Option.bind_eq_some_iff.mp hw
      obtain ⟨raw, hraw, rfl⟩ := Option.map_eq_some_iff.mp hw
      obtain ⟨s, hs, rfl⟩ := wait?_eq_some_iff.mp hraw
      exact ⟨n, line, rfl, hline, s, hs, s.wording.stops_isDigit_gap, rfl, String.toList_ofList⟩
    · rintro ⟨n, line, rfl, hline, s, hs, -, hamount, hunit⟩
      have hraw := wait?_eq_some_iff.mpr ⟨s, hs, rfl⟩
      rw [hwait, hline, Option.bind_some, hraw, Option.map_some]
      obtain ⟨amount, unit⟩ := w
      obtain rfl : amount = digitsValue s.wording.digits := hamount
      obtain rfl : unit = String.ofList s.wording.unit := by
        rw [← hunit, String.ofList_toList]
      rfl
  · rw [hwait, hline, Option.bind_some, Option.isSome_map]
    exact isSome_wait?_iff

/-- Lines with statements that do not stand, one that does and one behind it. -/
def crowdedLines : List String :=
  ["await 3 seconds; wait 5 hours; wait 10 ticksy; WAİT ٢٠ Secondſ, wait 1 tick", "wait"]

/-- Four starts fail before the wait is found, and a later one stays behind it. -/
theorem waits_leftmost_crowded :
    ∃ info, ofValues 0 (.text "crowded.sk") (.list (crowdedLines.map .text)) = .ok info ∧
      info.waits.get? 1 = some ⟨20, "Secondſ"⟩ ∧ info.waits.get? 2 = none ∧
      (∃ s : Statement (crowdedLines[0]).toList, s.Leftmost ∧
        digitsValue s.wording.digits = 20 ∧ s.wording.unit = "Secondſ".toList) ∧
      ¬ Nonempty (Statement "wait".toList) := by
  have hseen : ((ofValues 0 (.text "crowded.sk") (.list (crowdedLines.map .text))).toOption.map
      fun info => (info.waits.get? 1, info.waits.get? 2)) =
        some (some ⟨20, "Secondſ"⟩, none) := by
    decide +kernel
  obtain ⟨info, hinfo, hfacts⟩ := Option.map_eq_some_iff.mp hseen
  obtain ⟨hfirst, hsecond⟩ := Prod.mk.inj hfacts
  have hok := toOption_eq_some.mp hinfo
  obtain ⟨hwaits, hstands⟩ := waits_leftmost (.list crowdedLines) hok
  obtain ⟨n, line, hnumber, hline, s, hs, -, hamount, hunit⟩ := (hwaits 1 _).mp hfirst
  obtain rfl : n = 0 := by omega
  obtain rfl := Option.some.inj hline
  refine ⟨info, hok, hfirst, hsecond, ⟨s, hs, ?_, hunit.symm⟩, fun h => ?_⟩
  · exact Int.ofNat.inj hamount.symm
  · have hsome := (hstands 1 "wait" rfl).mpr h
    rw [show ((1 : Nat) : Int) + 1 = 2 from rfl, hsecond] at hsome
    cases hsome

/-- A line is an event exactly if it can be split as one, and its label tells the trigger of the
greatest split, up to the last colon before a line feed. Several blanks between the keyword and
a colon make an event without a trigger. Nothing but a wait that exceeds the limit of digits,
in any line of the script, keeps events from being told. -/
theorem events_greatest (hname : Names path name) (hread : Holds read lines) :
    ((∃ info, ofValues room path read = .ok info) ↔ ∀ line ∈ lines, ¬ Overlong line) ∧
    ∀ info, ofValues room path read = .ok info →
      info.events = lines.countP (fun line => Nonempty (Opening line.toList)) ∧
      ∀ (n : Nat) (line : String), lines[n]? = some line →
        (∀ trigger : String, (∃ found, info.labels.get? (n + 1) = some found ∧
            "Event: " ++ trigger ∈ found.map Label.text) ↔
          ∃ o : Opening line.toList, o.Greatest ∧ trigger.toList = strip o.trigger) ∧
        (∀ o : Opening line.toList, o.Greatest → ':' ∉ o.rest.takeWhile (· != '\n')) ∧
        ∀ indent word gap, line.toList = indent ++ (word ++ (gap ++ [':'])) →
          (∀ c ∈ indent, isBlank c = true) → Spells "on".toList word →
          (∀ c ∈ gap, isBlank c = true) → 2 ≤ gap.length → gap.getLast? ≠ some '\n' →
          ∃ found, info.labels.get? (n + 1) = some found ∧ "Event: " ∈ found.map Label.text := by
  rw [ofValues_of_names hname hread]
  refine ⟨?_, fun info h => ?_⟩
  · constructor
    · rintro ⟨info, h⟩
      exact (ofLines_eq_ok_iff.mp h).1
    · intro h
      exact ⟨_, ofLines_eq_ok_iff.mpr ⟨h, rfl⟩⟩
  obtain ⟨-, rfl⟩ := ofLines_eq_ok_iff.mp h
  refine ⟨events_ofFacts, fun n line hline => ?_⟩
  have htold : (lines.map told)[n]? = some (told line) := by
    rw [List.getElem?_map, hline]
    rfl
  have hlabel : ∀ trigger : String, (∃ found,
      (ofFacts name lines (lines.map told)).labels.get? (n + 1) = some found ∧
        "Event: " ++ trigger ∈ found.map Label.text) ↔
      event? line.toList = some trigger.toList := by
    intro trigger
    rw [mem_labels_iff htold, mem_texts_event, told, Option.map_eq_some_iff]
    constructor
    · rintro ⟨text, htext, rfl⟩
      rw [htext, String.toList_ofList]
    · intro htext
      exact ⟨_, htext, String.ofList_toList⟩
  refine ⟨fun trigger => ?_, fun o ho => ho.notMem_rest, ?_⟩
  · rw [hlabel, event?_eq_some_iff]
    simp only [eq_comm]
  · intro indent word gap htext hindent hword hgap htwo hlast
    apply (hlabel "").mpr
    rw [htext, event?_of_blank hindent hword hgap htwo hlast]
    rfl

/-- Events of which one has two colons, one no trigger and one a line feed, and two lines that
are no events. -/
def eventLines : List String := ["  ON   : now: go", "on  :", "on a: b:\nc:", "on", "loop on x:"]

/-- A script of events is told. A single line that is an event and exceeds the limit of digits
is not. -/
theorem events_greatest_eventLines :
    (∃ info, ofValues 0 (.path "events.sk") (.tuple (eventLines.map .text)) = .ok info ∧
      info.events = 3 ∧ eventLines.countP (fun line => Nonempty (Opening line.toList)) = 3 ∧
      (∃ o : Opening (eventLines[0]).toList, o.Greatest ∧ strip o.trigger = ": now".toList) ∧
      ∃ o : Opening (eventLines[2]).toList, o.Greatest ∧ strip o.trigger = "a: b".toList) ∧
    Nonempty (Opening (longLine "on join: " 4301).toList) ∧
    ¬ ∃ info, ofValues 0 (.path "long.sk") (.list ([longLine "on join: " 4301].map .text)) =
      .ok info := by
  constructor
  · have hseen : ((ofValues 0 (.path "events.sk") (.tuple (eventLines.map .text))).toOption.map
        fun info => (info.events, info.labels.get? 1, info.labels.get? 3)) =
          some (3, some [.event ": now"], some [.event "a: b"]) := by
      decide +kernel
    obtain ⟨info, hinfo, hfacts⟩ := Option.map_eq_some_iff.mp hseen
    obtain ⟨hcount, hfacts⟩ := Prod.mk.inj hfacts
    obtain ⟨hfirst, hthird⟩ := Prod.mk.inj hfacts
    have hok := toOption_eq_some.mp hinfo
    obtain ⟨hevents, hlabels⟩ := (events_greatest (.path _) (.tuple eventLines)).2 info hok
    obtain ⟨first, hgreatest, htrigger⟩ := ((hlabels 0 _ rfl).1 ": now").mp ⟨_, hfirst, by decide⟩
    obtain ⟨third, hgreatest', htrigger'⟩ := ((hlabels 2 _ rfl).1 "a: b").mp ⟨_, hthird, by decide⟩
    refine ⟨info, hok, hcount, ?_, ⟨first, hgreatest, htrigger.symm⟩, third, hgreatest',
      htrigger'.symm⟩
    exact Int.ofNat.inj (hevents.symm.trans hcount)
  · refine ⟨⟨[], "on".toList, [' '], "join".toList, (longLine " " 4301).toList, ?_, by simp,
      by decide, by simp, by simp; decide, by decide, by decide⟩, ?_⟩
    · simp only [longLine, String.toList_ofList]
      generalize List.replicate 4301 '1' = ones
      rfl
    · intro h
      have hshort := (events_greatest (.path _) (.list _)).1.mp h _ List.mem_cons_self
      exact hshort ⟨4301, exceeds_longLine (by decide) (by decide) (by decide +kernel)⟩

end Lines

end ScriptInfo
end ScriptProfiling
