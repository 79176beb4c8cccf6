import Mathlib.Data.List.TakeWhile
import ScriptProfiling.Proofs.Text.Lines
import ScriptProfiling.Proofs.Trace

/-!
# Malformed lines are skipped, all others are kept

What the lines of a trace come to, one by one, decides the reading: it goes on past every
entry and every malformed line, and stops at the first fault that is none of a line. A
text without long runs of digits has no such fault, so all of it is read.
-/
namespace ScriptProfiling

section Pieces

theorem strip_isInfix (cs : List Char) : strip cs <:+: cs := by
  have hsuffix : (dropBlanks cs) <:+ cs := List.dropWhile_suffix _
  have hprefix : strip cs <+: dropBlanks cs :=
    List.reverse_suffix.mp (by simpa [strip, dropBlanks] using List.dropWhile_suffix _)
  exact hprefix.isInfix.trans hsuffix.isInfix

theorem not_longRun_of_length_le {cs : List Char} (h : cs.length ≤ digitLimit) (digits : Nat) :
    ¬ LongRun digits cs := by
  rintro ⟨run, hrun, hlength, hlimit, -⟩
  have hle : run.length ≤ cs.length := hrun.length_le
  omega

end Pieces

namespace TraceReading

/-- What the lines that say something come to, in order. -/
def outcomes (number : Nat) (lines : List (List Char)) : List (Except Fault TraceEntry) :=
  (lines.zipIdx number).filterMap fun line =>
    if saysNothing (strip line.1) then none
    else some (TraceEntry.parse (String.ofList (strip line.1)) line.2)

/-- The warning that a line leaves. -/
def warning? : Except Fault TraceEntry → Option LogEntry
  | .ok _ => none
  | .error f => some (skipped f)

/-- The fault that ends the reading, if this is one. -/
def fatal? : Except Fault TraceEntry → Option Fault
  | .ok _ => none
  | .error f => if f.cls == .failure .traceFormat then none else some f

/-- The part that is read: all before the first fault that ends the reading. -/
def readable (outcomes : List (Except Fault TraceEntry)) : List (Except Fault TraceEntry) :=
  outcomes.takeWhile fun outcome => (fatal? outcome).isNone

theorem fatal?_of_settled {line : Nat} {outcome : Except Fault TraceEntry}
    (h : TraceEntry.Settled line outcome) : fatal? outcome = none := by
  rcases h with ⟨entry, rfl⟩ | ⟨reason, rfl⟩ <;> rfl

theorem readable_cons_of_none {o : Except Fault TraceEntry} (h : fatal? o = none)
    (os : List (Except Fault TraceEntry)) : readable (o :: os) = o :: readable os := by
  simp [readable, h]

theorem readable_cons_of_some {o : Except Fault TraceEntry} {f : Fault} (h : fatal? o = some f)
    (os : List (Except Fault TraceEntry)) : readable (o :: os) = [] := by
  simp [readable, h]

theorem outcomes_cons (number : Nat) (line : List Char) (lines : List (List Char)) :
    outcomes number (line :: lines) =
      if saysNothing (strip line) then outcomes (number + 1) lines
      else TraceEntry.parse (String.ofList (strip line)) number :: outcomes (number + 1) lines := by
  simp only [outcomes, List.zipIdx_cons, List.filterMap_cons]
  split <;> simp_all

theorem outcomes_append (number : Nat) (first second : List (List Char)) :
    outcomes number (first ++ second) =
      outcomes number first ++ outcomes (number + first.length) second := by
  rw [outcomes, List.zipIdx_append, List.filterMap_append]
  rfl

theorem ofLines_eq (number : Nat) (lines : List (List Char)) :
    ofLines number lines =
      { entries := (readable (outcomes number lines)).filterMap Except.toOption
        log := (readable (outcomes number lines)).filterMap warning?
        fault := (outcomes number lines).findSome? fatal? } := by
  induction lines generalizing number with
  | nil => rfl
  | cons line lines ih =>
    rw [outcomes_cons]
    simp only [ofLines]
    split
    · exact ih (number + 1)
    · rw [ih (number + 1)]
      cases TraceEntry.parse (String.ofList (strip line)) number with
      | ok entry =>
        have hnone : fatal? (.ok entry) = none := rfl
        rw [readable_cons_of_none hnone, List.findSome?_cons_of_isNone (by rw [hnone]; rfl)]
        rfl
      | error f =>
        dsimp only
        split
        · next hf =>
          have hnone : fatal? (.error f) = none := if_pos hf
          rw [readable_cons_of_none hnone, List.findSome?_cons_of_isNone (by rw [hnone]; rfl)]
          rfl
        · next hf =>
          have hsome : fatal? (.error f) = some f := if_neg hf
          rw [readable_cons_of_some hsome, List.findSome?_cons, hsome]
          rfl

theorem readable_eq_self {os : List (Except Fault TraceEntry)} (h : ∀ o ∈ os, fatal? o = none) :
    readable os = os := by
  refine List.takeWhile_eq_self_iff.mpr fun o ho => ?_
  rw [h o ho]
  rfl

theorem fault_ofLines_eq_none_iff {number : Nat} {lines : List (List Char)} :
    (ofLines number lines).fault = none ↔ ∀ o ∈ outcomes number lines, fatal? o = none := by
  rw [ofLines_eq]
  exact List.findSome?_eq_none_iff

theorem ofLines_whole {number : Nat} {lines : List (List Char)}
    (h : ∀ o ∈ outcomes number lines, fatal? o = none) :
    ofLines number lines =
      ⟨(outcomes number lines).filterMap Except.toOption,
        (outcomes number lines).filterMap warning?, none⟩ := by
  rw [ofLines_eq, readable_eq_self h, List.findSome?_eq_none_iff.mpr h]

/-- The empty piece behind the last line feed says nothing. -/
theorem outcomes_feedLines (number : Nat) (cs : List Char) :
    outcomes number (feedLines cs) = outcomes number (splitAt '\n' cs) := by
  unfold feedLines
  dsimp only
  split
  · next hlast =>
    obtain ⟨pieces, hpieces⟩ := List.getLast?_eq_some_iff.mp hlast
    rw [hpieces, List.dropLast_concat, outcomes_append]
    exact (List.append_nil _).symm
  · rfl

theorem ofText_eq (text : String) : ofText text = ofLines 1 (splitAt '\n' text.toList) := by
  rw [ofText, ofLines_eq, ofLines_eq, outcomes_feedLines]

theorem mem_outcomes {number : Nat} {cs : List Char} {outcome : Except Fault TraceEntry}
    (h : outcome ∈ outcomes number (feedLines cs)) :
    ∃ line n, String.toList line <:+: cs ∧ outcome = TraceEntry.parse line n := by
  obtain ⟨⟨line, n⟩, hline, houtcome⟩ := List.mem_filterMap.mp h
  have hmem : line ∈ feedLines cs := (List.mem_zipIdx hline).2.2 ▸ List.getElem_mem _
  split at houtcome
  · cases houtcome
  · refine ⟨String.ofList (strip line), n, ?_, (Option.some.inj houtcome).symm⟩
    rw [String.toList_ofList]
    exact (strip_isInfix line).trans (isInfix_of_mem_feedLines hmem)

/-- A fault that ends the reading of a text is that of a long run of digits in it. -/
theorem longRun_of_fatal? {number : Nat} {cs : List Char} {outcome : Except Fault TraceEntry}
    {f : Fault} (h : outcome ∈ outcomes number (feedLines cs)) (hf : fatal? outcome = some f) :
    ∃ digits, f = .numeralTooLong digits ∧ LongRun digits cs := by
  obtain ⟨line, n, hinfix, rfl⟩ := mem_outcomes h
  rcases TraceEntry.parse_cases line n with hsettled | ⟨digits, hparse, hrun⟩
  · rw [fatal?_of_settled hsettled] at hf
    cases hf
  · rw [hparse] at hf
    exact ⟨digits, (Option.some.inj hf).symm, hrun.mono hinfix⟩

/-- Reading survives every line but one with a long run of digits. A line alone gives an
entry, a malformed entry or the fault of such a run. Of a text, all is read that stands
before the first such fault, each line giving its entry or its warning; and a text with no
long run of digits is read whole. -/
theorem survives (text : String) :
    (∀ line number, TraceEntry.Settled number (TraceEntry.parse line number) ∨
      ∃ digits, TraceEntry.parse line number = .error (.numeralTooLong digits) ∧
        LongRun digits line.toList) ∧
    (let all := outcomes 1 (feedLines text.toList)
     (ofText text).entries = (readable all).filterMap Except.toOption ∧
     (ofText text).log = (readable all).filterMap warning? ∧
     (ofText text).fault = all.findSome? fatal? ∧
     (∀ f, (ofText text).fault = some f →
       ∃ digits, f = .numeralTooLong digits ∧ LongRun digits text.toList) ∧
     ((∀ digits, ¬ LongRun digits text.toList) →
       (ofText text).fault = none ∧
       (ofText text).entries = all.filterMap Except.toOption ∧
       (ofText text).log = all.filterMap warning?)) := by
  refine ⟨fun line number => TraceEntry.parse_cases line number, ?_⟩
  have heq := ofLines_eq 1 (feedLines text.toList)
  have hfault : ∀ f, (ofText text).fault = some f →
      ∃ digits, f = .numeralTooLong digits ∧ LongRun digits text.toList := by
    intro f hf
    rw [ofText, heq] at hf
    obtain ⟨outcome, hmem, hfatal⟩ := List.exists_of_findSome?_eq_some hf
    exact longRun_of_fatal? hmem hfatal
  refine ⟨by rw [ofText, heq], by rw [ofText, heq], by rw [ofText, heq], hfault, fun hnone => ?_⟩
  have hnofault : (ofText text).fault = none := by
    rw [Option.eq_none_iff_forall_ne_some]
    intro f hf
    obtain ⟨digits, -, hrun⟩ := hfault f hf
    exact hnone digits hrun
  have hall :
      readable (outcomes 1 (feedLines text.toList)) = outcomes 1 (feedLines text.toList) := by
    refine readable_eq_self fun outcome hmem => ?_
    rw [ofText, heq] at hnofault
    exact List.findSome?_eq_none_iff.mp hnofault outcome hmem
  refine ⟨hnofault, ?_, ?_⟩
  · rw [ofText, heq, hall]
  · rw [ofText, heq, hall]

/-- A note, two entries and, between them, a line that is no JSON. -/
def spoiltTrace : String :=
  "# first day\n" ++
  "\x7b\"file\": \"a.sk\", \"line\": 3\x7d\n" ++
  "\x7b\"file\"\n\n" ++
  "\x7b\"file\": \"b.sk\", \"line\": 7, \"duration_ns\": 40\x7d\n"

theorem survives_spoiltTrace :
    (∀ digits, ¬ LongRun digits spoiltTrace.toList) ∧
    (ofText spoiltTrace).fault = none ∧
    (ofText spoiltTrace).entries =
      [⟨⟨"a.sk", 3, "event"⟩, "", none⟩, ⟨⟨"b.sk", 7, "event"⟩, "", some 40⟩] ∧
    (ofText spoiltTrace).log.length = 1 := by
  have hshort : ∀ digits, ¬ LongRun digits spoiltTrace.toList :=
    not_longRun_of_length_le (by decide +kernel)
  obtain ⟨-, -, -, -, -, hwhole⟩ := survives spoiltTrace
  obtain ⟨hfault, hentries, hlog⟩ := hwhole hshort
  refine ⟨hshort, hfault, hentries.trans (by decide +kernel), ?_⟩
  rw [hlog]
  decide +kernel

end TraceReading
end ScriptProfiling
