import ScriptProfiling.Proofs.Aggregator.Tally
import ScriptProfiling.Proofs.Report.Totality
import ScriptProfiling.Proofs.Text.Blank
import ScriptProfiling.Proofs.Trace.Reading

/-!
# A replay conserves executions

Each line of a trace that is read to its end is of one of four kinds. A replay counts the
lines with entries, and the records it leaves count the same executions, spread over their
keys. One trace behind another is replayed as the two are one after the other.
-/
namespace ScriptProfiling

open Observation

namespace Observation

/-- Keys that cover some observations, each of them once, share them out. -/
theorem sum_length_ofKey {ks : List MetricKey} (hks : ks.Nodup) {os : List Observation}
    (hcover : ∀ o ∈ os, o.key ∈ ks) :
    (ks.map fun key => (ofKey key os).length).sum = os.length := by
  induction ks generalizing os with
  | nil =>
    cases os with
    | nil => rfl
    | cons o os => exact absurd (hcover o List.mem_cons_self) List.not_mem_nil
  | cons key ks ih =>
    obtain ⟨hkey, hks⟩ := List.nodup_cons.mp hks
    -- The observations of the other keys are shared out among those.
    have hothers : ∀ o ∈ os.filter (fun o => !decide (o.key = key)), o.key ∈ ks := by
      intro o ho
      obtain ⟨hmem, hne⟩ := List.mem_filter.mp ho
      exact (List.mem_cons.mp (hcover o hmem)).resolve_left (by simpa using hne)
    have hsame : ∀ other ∈ ks,
        (ofKey other os).length =
          (ofKey other (os.filter fun o => !decide (o.key = key))).length := by
      intro other hother
      have hne : other ≠ key := fun heq => hkey (heq ▸ hother)
      have hsplit : ∀ o : Observation,
          (decide (o.key = other) && !decide (o.key = key)) = decide (o.key = other) := by
        intro o
        by_cases ho : o.key = other <;> simp [ho, hne]
      simp only [ofKey, List.filter_filter, hsplit]
    rw [List.map_cons, List.sum_cons, List.map_congr_left hsame, ih hks hothers]
    exact (List.length_eq_length_filter_add _).symm

theorem sum_count_digest {os : List Observation} (h : (keys os).Nodup) :
    ((digest os).map fun e => e.2.count).sum = (os.length : Int) := by
  have hcover : ∀ o ∈ os, o.key ∈ keys os := fun o ho => (mem_keys o.key os).mpr ⟨o, ho, rfl⟩
  have hshared := sum_length_ofKey h hcover
  rw [← hshared, digest, List.map_map]
  simp [Function.comp_def, summary, Nat.cast_list_sum]

theorem sum_durations (os : List Observation) :
    (durations os).sum = (os.map fun o => o.duration.getD 0).sum := by
  induction os with
  | nil => rfl
  | cons o os ih =>
    rw [durations] at ih ⊢
    cases h : o.duration with
    | none => simp [h, ih]
    | some d => simp [h, ih]

end Observation

namespace TraceEntry

section Renumbering

variable {α β : Type}

theorem toOption_bind (r : Except Fault α) (g : α → Except Fault β) :
    (r >>= g).toOption = r.toOption.bind fun x => (g x).toOption := by
  cases r <;> rfl

theorem toOption_readField (line : Nat) (before : String) (field : Except Fault α) :
    (readField line before field).toOption = field.toOption := by
  cases field with
  | ok x => rfl
  | error f =>
    unfold readField
    dsimp only
    split <;> rfl

theorem toOption_required (line : Nat) (fields : List (String × Json)) (name : String) :
    (required line fields name).toOption = Catalog.lookup name fields := by
  unfold required
  split <;> simp_all [Except.toOption]

/-- The number of a line is only told in its warning: the entry is the same under any other. -/
theorem toOption_parse (text : String) (m n : Nat) :
    (parse text m).toOption = (parse text n).toOption := by
  have hfields : ∀ fields, (ofFields m fields).toOption = (ofFields n fields).toOption := by
    intro fields
    simp only [ofFields, keyOf, toOption_bind, toOption_readField, toOption_required]
  unfold parse
  split
  · rfl
  · rfl
  · exact hfields _
  · rfl

theorem fatal?_parse (text : String) (m n : Nat) :
    TraceReading.fatal? (parse text m) = TraceReading.fatal? (parse text n) := by
  by_cases h : ∃ digits, Json.parse text = .error (.numeralTooLong digits)
  · obtain ⟨digits, hdigits⟩ := h
    rw [parse, parse, hdigits]
  · have hlimit : ∀ digits, Json.parse text ≠ .error (.numeralTooLong digits) := not_exists.mp h
    rw [TraceReading.fatal?_of_settled (settled_parse hlimit m),
      TraceReading.fatal?_of_settled (settled_parse hlimit n)]

end Renumbering

end TraceEntry

namespace TraceReading

/-- What a line of a trace can be. -/
inductive LineKind where
  | blank
  | note
  | malformed (reason : String)
  | entry (e : TraceEntry)
  deriving DecidableEq

namespace LineKind

def isMalformed : LineKind → Bool
  | .malformed _ => true
  | _ => false

def held? : LineKind → Option TraceEntry
  | .entry e => some e
  | _ => none

/-- Neither blank nor a note nor malformed. -/
def isEntry : LineKind → Bool
  | .blank | .note | .malformed _ => false
  | _ => true

/-- The warning about a line, which tells its number. -/
def warning? (number : Nat) : LineKind → Option LogEntry
  | .malformed reason => some ⟨.warning, .trace,
      "Skipping trace entry: Malformed trace entry on line " ++ wholeText number ++
        " (line=" ++ wholeText number ++ ", reason=" ++ reason ++ ")"⟩
  | _ => none

/-- What the reader makes of a line, if the line says something. -/
def outcome? (number : Nat) : LineKind → Option (Except Fault TraceEntry)
  | .blank | .note => none
  | .malformed reason => some (.error (.traceFormat number reason))
  | .entry e => some (.ok e)

/-- The kind of a line with its number: blanks alone, blanks and then a number sign, or
anything else, as it is read without the blanks around it. -/
inductive Of (line : List Char) (number : Nat) : LineKind → Prop
  | blank (hblank : ∀ c ∈ line, isBlank c = true) : Of line number .blank
  | note {before text : List Char} (hbefore : ∀ c ∈ before, isBlank c = true)
    (hline : line = before ++ '#' :: text) : Of line number .note
  | malformed {reason : String} (hkept : saysNothing (strip line) = false)
    (hparse : TraceEntry.parse (String.ofList (strip line)) number =
      .error (.traceFormat number reason)) : Of line number (.malformed reason)
  | entry {e : TraceEntry} (hkept : saysNothing (strip line) = false)
    (hparse : TraceEntry.parse (String.ofList (strip line)) number = .ok e) :
    Of line number (.entry e)

theorem message_traceFormat (number : Nat) (reason : String) :
    (Fault.traceFormat number reason).message =
      "Malformed trace entry on line " ++ wholeText number ++ " (line=" ++ wholeText number ++
        ", reason=" ++ reason ++ ")" := by
  have htext : (Fault.traceFormat number reason).message =
      "Malformed trace entry on line " ++ wholeText number ++ " (" ++
        ", ".intercalate ["line" ++ "=" ++ wholeText number, "reason" ++ "=" ++ reason] ++ ")" :=
    rfl
  have hline : " (" ++ ("line" ++ "=") = " (line=" := by decide
  have hreason : ", " ++ ("reason" ++ "=") = ", reason=" := by decide
  rw [htext, ← hline, ← hreason]
  apply String.toList_inj.mp
  simp only [String.toList_append, String.toList_intercalate, List.map_cons, List.map_nil,
    List.intercalate_cons_cons, List.intercalate_singleton, List.append_assoc]

theorem warning?_outcome? (number : Nat) (kind : LineKind) :
    (kind.outcome? number).bind TraceReading.warning? = kind.warning? number := by
  cases kind with
  | malformed reason =>
    have htext : "Skipping trace entry: " ++ (Fault.traceFormat number reason).message =
        "Skipping trace entry: Malformed trace entry on line " ++ wholeText number ++
          " (line=" ++ wholeText number ++ ", reason=" ++ reason ++ ")" := by
      have hbegin : "Skipping trace entry: " ++ "Malformed trace entry on line " =
          "Skipping trace entry: Malformed trace entry on line " := by decide
      rw [message_traceFormat, ← hbegin]
      simp only [String.append_assoc]
    exact congrArg (fun message => some (LogEntry.mk .warning .trace message)) htext
  | _ => rfl

variable {line : List Char} {number : Nat} {kind : LineKind}

/-- The kind of a line decides what the reader makes of it. -/
theorem Of.outcome (h : Of line number kind) :
    (if saysNothing (strip line) then none
      else some (TraceEntry.parse (String.ofList (strip line)) number)) = kind.outcome? number := by
  cases h with
  | blank hblank =>
    rw [strip_eq_nil hblank]
    rfl
  | note hbefore hline =>
    rw [hline, strip_append_cons hbefore (by decide)]
    rfl
  | malformed hkept hparse =>
    rw [hkept, hparse]
    rfl
  | entry hkept hparse =>
    rw [hkept, hparse]
    rfl

theorem Of.unique {other : LineKind} (h : Of line number kind) (h' : Of line number other) :
    kind = other := by
  have houtcome : kind.outcome? number = other.outcome? number := h.outcome.symm.trans h'.outcome
  have hnote : ∀ {before text : List Char}, (∀ c ∈ before, isBlank c = true) →
      line = before ++ '#' :: text → ¬ ∀ c ∈ line, isBlank c = true := by
    rintro before text - rfl hall
    exact absurd (hall '#' (by simp)) (by decide)
  cases h with
  | blank hblank =>
    cases h' with
    | blank _ => rfl
    | note hbefore hline => exact absurd hblank (hnote hbefore hline)
    | malformed _ _ => cases houtcome
    | entry _ _ => cases houtcome
  | note hbefore hline =>
    cases h' with
    | blank hblank => exact absurd hblank (hnote hbefore hline)
    | note _ _ => rfl
    | malformed _ _ => cases houtcome
    | entry _ _ => cases houtcome
  | malformed _ _ =>
    cases h' with
    | blank _ => cases houtcome
    | note _ _ => cases houtcome
    | malformed _ _ =>
      simp only [outcome?, Fault.traceFormat, Option.some.injEq, Except.error.injEq] at houtcome
      cases houtcome
      rfl
    | entry _ _ => cases houtcome
  | entry _ _ =>
    cases h' with
    | blank _ => cases houtcome
    | note _ _ => cases houtcome
    | malformed _ _ => cases houtcome
    | entry _ _ =>
      cases houtcome
      rfl

theorem exists_of
    (h : saysNothing (strip line) = false →
      fatal? (TraceEntry.parse (String.ofList (strip line)) number) = none) :
    ∃ kind, Of line number kind := by
  rcases blank_or_begins line with hblank | ⟨before, c, text, hline, hbefore, hc⟩
  · exact ⟨_, .blank hblank⟩
  · by_cases hsharp : c = '#'
    · obtain rfl := hsharp
      exact ⟨_, .note hbefore hline⟩
    · have hkept : saysNothing (strip line) = false := by
        rw [hline, strip_append_cons hbefore hc]
        simp [saysNothing, hsharp]
      rcases TraceEntry.parse_cases (String.ofList (strip line)) number with
        (⟨e, he⟩ | ⟨reason, hreason⟩) | ⟨digits, hdigits, -⟩
      · exact ⟨_, .entry hkept he⟩
      · exact ⟨_, .malformed hkept hreason⟩
      · have hfatal := h hkept
        rw [hdigits] at hfatal
        cases hfatal

end LineKind

section Kinds

/-- The kinds of the lines of a trace, the first of which has the given number. -/
def Kinds (number : Nat) (lines : List (List Char)) (kinds : List LineKind) : Prop :=
  List.Forall₂ (fun line kind => LineKind.Of line.1 line.2 kind) (lines.zipIdx number) kinds

variable {number : Nat} {lines : List (List Char)} {kinds : List LineKind}

theorem Kinds.unique {others : List LineKind} (h : Kinds number lines kinds)
    (h' : Kinds number lines others) : kinds = others := by
  induction lines generalizing number kinds others with
  | nil =>
    cases h
    cases h'
    rfl
  | cons line lines ih =>
    obtain _ | ⟨hfirst, hrest⟩ := h
    obtain _ | ⟨hfirst', hrest'⟩ := h'
    rw [hfirst.unique hfirst', ih hrest hrest']

theorem exists_kinds (h : ∀ o ∈ outcomes number lines, fatal? o = none) :
    ∃ kinds, Kinds number lines kinds := by
  induction lines generalizing number with
  | nil => exact ⟨[], .nil⟩
  | cons line lines ih =>
    rw [outcomes_cons] at h
    obtain ⟨kind, hkind⟩ : ∃ kind, LineKind.Of line number kind := by
      refine LineKind.exists_of fun hkept => h _ ?_
      rw [hkept]
      exact List.mem_cons_self
    obtain ⟨kinds, hkinds⟩ : ∃ kinds, Kinds (number + 1) lines kinds := by
      refine ih fun o ho => h o ?_
      split
      · exact ho
      · exact List.mem_cons_of_mem _ ho
    exact ⟨kind :: kinds, .cons hkind hkinds⟩

theorem Kinds.outcomes_eq (h : Kinds number lines kinds) :
    outcomes number lines = (kinds.zipIdx number).filterMap fun kind => kind.1.outcome? kind.2 := by
  induction lines generalizing number kinds with
  | nil =>
    cases h
    rfl
  | cons line lines ih =>
    obtain _ | ⟨hfirst, hrest⟩ := h
    rw [outcomes_cons, List.zipIdx_cons, List.filterMap_cons, ← hfirst.outcome, ih hrest]
    split <;> simp

/-- The entries of a trace and its warnings, each with its number, are read off the kinds
of its lines. -/
theorem Kinds.ofLines_eq (h : Kinds number lines kinds) :
    ofLines number lines =
      ⟨kinds.filterMap LineKind.held?,
        (kinds.zipIdx number).filterMap fun kind => kind.1.warning? kind.2, none⟩ := by
  have hfatal : ∀ o ∈ outcomes number lines, fatal? o = none := by
    intro o ho
    rw [h.outcomes_eq] at ho
    obtain ⟨⟨kind, n⟩, -, hkind⟩ := List.mem_filterMap.mp ho
    cases kind <;> cases hkind <;> rfl
  have hentries : (kinds.zipIdx number).filterMap (fun kind => kind.1.held?) =
      kinds.filterMap LineKind.held? := by
    have hmap : ((kinds.zipIdx number).map Prod.fst).filterMap LineKind.held? =
        (kinds.zipIdx number).filterMap (LineKind.held? ∘ Prod.fst) := List.filterMap_map
    rw [List.zipIdx_map_fst] at hmap
    exact hmap.symm
  rw [ofLines_whole hfatal, h.outcomes_eq, List.filterMap_filterMap, List.filterMap_filterMap,
    ← hentries]
  congr 1
  · refine List.filterMap_congr fun kind _ => ?_
    cases kind.1 <;> rfl
  · exact List.filterMap_congr fun kind _ => LineKind.warning?_outcome? kind.2 kind.1

theorem length_entries (kinds : List LineKind) :
    (kinds.filterMap LineKind.held?).length = kinds.countP LineKind.isEntry := by
  rw [List.length_filterMap_eq_countP]
  refine List.countP_congr fun kind _ => ?_
  cases kind <;> simp [LineKind.held?, LineKind.isEntry]

theorem length_warnings (kinds : List LineKind) (number : Nat) :
    ((kinds.zipIdx number).filterMap fun kind => kind.1.warning? kind.2).length =
      kinds.countP LineKind.isMalformed := by
  have hmap : ((kinds.zipIdx number).map Prod.fst).countP LineKind.isMalformed =
      (kinds.zipIdx number).countP (LineKind.isMalformed ∘ Prod.fst) := List.countP_map
  rw [List.zipIdx_map_fst] at hmap
  rw [List.length_filterMap_eq_countP, hmap]
  refine List.countP_congr fun kind _ => ?_
  cases h : kind.1 <;> simp [LineKind.warning?, LineKind.isMalformed, h]

end Kinds

section Concatenation

/-- One trace behind another. Where the first leaves its last line open, a line end is put
between them. -/
def followedBy (first second : String) : String :=
  if first = "" ∨ first.toList.getLast? = some '\n' then first ++ second
  else first ++ "\n" ++ second

theorem feedLines_followedBy (first second : String) :
    feedLines (followedBy first second).toList =
      feedLines first.toList ++ feedLines second.toList := by
  unfold followedBy
  split_ifs with h
  · rcases h with rfl | hlast
    · simp [feedLines, splitAt]
    · obtain ⟨cs, hcs⟩ := List.getLast?_eq_some_iff.mp hlast
      have hfirst : feedLines (cs ++ ['\n']) = splitAt '\n' cs := by
        rw [feedLines_append_cons]
        simp [feedLines, splitAt]
      rw [String.toList_append, hcs, List.append_assoc, List.singleton_append,
        feedLines_append_cons, hfirst]
  · have hfirst : feedLines first.toList = splitAt '\n' first.toList := by
      refine if_neg fun hlast => h ?_
      refine (eq_nil_or_getLast?_of_splitAt hlast).imp_left fun hnil => ?_
      exact String.toList_eq_nil_iff.mp hnil
    have hchars : (first ++ "\n" ++ second).toList = first.toList ++ '\n' :: second.toList := by
      simp
    rw [hchars, feedLines_append_cons, hfirst]

theorem map_outcomes {β : Type} {f : Except Fault TraceEntry → β}
    (hf : ∀ text m n, f (TraceEntry.parse text m) = f (TraceEntry.parse text n)) (m n : Nat)
    (lines : List (List Char)) : (outcomes m lines).map f = (outcomes n lines).map f := by
  induction lines generalizing m n with
  | nil => rfl
  | cons line lines ih =>
    rw [outcomes_cons, outcomes_cons]
    split
    · exact ih (m + 1) (n + 1)
    · rw [List.map_cons, List.map_cons, hf _ m n, ih (m + 1) (n + 1)]

theorem filterMap_outcomes (m n : Nat) (lines : List (List Char)) :
    (outcomes m lines).filterMap Except.toOption =
      (outcomes n lines).filterMap Except.toOption := by
  have hmap := map_outcomes TraceEntry.toOption_parse m n lines
  have hid : ∀ os : List (Except Fault TraceEntry),
      os.filterMap Except.toOption = (os.map Except.toOption).filterMap id := by
    intro os
    rw [List.filterMap_map]
    rfl
  rw [hid, hid, hmap]

/-- Traces that are read to their end are so one behind the other, with the entries of both. -/
theorem ofText_followedBy {first second : String} (hfirst : (ofText first).fault = none)
    (hsecond : (ofText second).fault = none) :
    (ofText (followedBy first second)).fault = none ∧
      (ofText (followedBy first second)).entries =
        (ofText first).entries ++ (ofText second).entries := by
  have hall := fault_ofLines_eq_none_iff.mp hfirst
  have hall' := fault_ofLines_eq_none_iff.mp hsecond
  have hlater : ∀ o ∈ outcomes (1 + (feedLines first.toList).length) (feedLines second.toList),
      fatal? o = none := by
    intro o ho
    have hmem := List.mem_map_of_mem (f := fatal?) ho
    rw [map_outcomes TraceEntry.fatal?_parse _ 1] at hmem
    obtain ⟨o', ho', heq⟩ := List.mem_map.mp hmem
    rw [← heq]
    exact hall' o' ho'
  have hboth : ∀ o ∈ outcomes 1 (feedLines (followedBy first second).toList), fatal? o = none := by
    intro o ho
    rw [feedLines_followedBy, outcomes_append] at ho
    exact (List.mem_append.mp ho).elim (hall o) (hlater o)
  refine ⟨fault_ofLines_eq_none_iff.mpr hboth, ?_⟩
  simp only [ofText, ofLines_whole hboth, ofLines_whole hall, ofLines_whole hall']
  rw [feedLines_followedBy, outcomes_append, List.filterMap_append,
    filterMap_outcomes (1 + _) 1]

end Concatenation

end TraceReading

namespace Aggregator

variable {a : Aggregator}

theorem replayCounted_eq (a : Aggregator) (entries : List TraceEntry) :
    a.replayCounted entries = (entries.length, a.replay entries) := by
  have hgo : ∀ n, entries.foldl (fun done e => (done.1 + 1, done.2.replayEntry e)) (n, a) =
      (n + entries.length, a.replay entries) := by
    intro n
    induction entries generalizing a n with
    | nil => rfl
    | cons e entries ih =>
      have hlength : n + 1 + entries.length = n + (entries.length + 1) := by omega
      rw [List.foldl_cons, ih, hlength]
      rfl
  rw [replayCounted, hgo, Nat.zero_add]

theorem replayCounted_append (a : Aggregator) (first second : List TraceEntry) :
    a.replayCounted (first ++ second) =
      let done := a.replayCounted first
      let more := done.2.replayCounted second
      (done.1 + more.1, more.2) := by
  simp [replayCounted_eq, replay]

theorem replayCounted_of_idle (h : a.active = false) (entries : List TraceEntry) :
    a.replayCounted entries = (entries.length, a) := by
  rw [replayCounted_eq]
  exact congrArg (Prod.mk _) (record_of_idle h (.replay entries))

/-- What a replay leaves in an active aggregator without records: the digest of its entries. -/
theorem entries_replay (h : a.active = true) (hempty : a.records.isEmpty = true)
    (entries : List TraceEntry) : (a.replay entries).records.entries = digest entries := by
  have hnil : a.records.entries = [] := List.isEmpty_iff.mp hempty
  have hkeys : Metrics.OwnKeys a.records := by
    intro key r hr
    rw [Catalog.get?, hnil] at hr
    cases hr
  have hdigest : a.records.entries = digest [] := hnil
  rw [records_replay h hkeys, Metrics.entries_observeAll hdigest, List.nil_append]

theorem nodup_keys_replay (h : a.active = true) (hempty : a.records.isEmpty = true)
    (entries : List TraceEntry) : (keys entries).Nodup := by
  rw [← map_fst_digest, ← entries_replay h hempty]
  exact (a.replay entries).records.nodup

theorem executions_replay (h : a.active = true) (hempty : a.records.isEmpty = true)
    (entries : List TraceEntry) :
    Metrics.executions (a.replay entries).snapshot = entries.length := by
  rw [← sum_count_digest (nodup_keys_replay h hempty entries), ← entries_replay h hempty]
  simp [Metrics.executions, snapshot, Catalog.values, Function.comp_def]

/-- The time of a key is the sum over its entries, those without a duration adding nothing. -/
theorem total_replay (h : a.active = true) (hempty : a.records.isEmpty = true)
    (entries : List TraceEntry) (key : MetricKey) :
    ((a.replay entries).snapshot.get? key).map Record.total =
      if ∃ e ∈ entries, e.key = key then
        some ((entries.filter (·.key = key)).map fun e => e.duration.getD 0).sum
      else none := by
  rw [snapshot, Catalog.get?, entries_replay h hempty, lookup_digest]
  simp only [mem_keys]
  split
  · exact congrArg some (sum_durations _)
  · rfl

end Aggregator

namespace TraceReading

/-- A replay of a trace that is read to its end counts each line that has an entry, and no
other line. Every line is of one of the four kinds and of no other. The malformed ones are
those that a warning names, each by its number among all lines. An active aggregator
without records has the same executions afterwards, with the times of the entries added up
for each key; an inactive one stays as it is. Of two traces, one behind the other is
replayed as one after the other. -/
theorem replay_conserves (text : String) (hread : (ofText text).fault = none) :
    ∃ kinds : List LineKind,
      Kinds 1 (feedLines text.toList) kinds ∧
      (∀ others, Kinds 1 (feedLines text.toList) others → others = kinds) ∧
      (ofText text).entries = kinds.filterMap LineKind.held? ∧
      (ofText text).log = (kinds.zipIdx 1).filterMap (fun kind => kind.1.warning? kind.2) ∧
      (ofText text).log.length = kinds.countP LineKind.isMalformed ∧
      (∀ a : Aggregator, a.active = true → a.records.isEmpty = true →
        let done := a.replayCounted (ofText text).entries
        done.1 = kinds.countP LineKind.isEntry ∧
        Metrics.executions done.2.snapshot = done.1 ∧
        ∀ key, (done.2.snapshot.get? key).map Record.total =
          if ∃ e ∈ (ofText text).entries, e.key = key then
            some (((ofText text).entries.filter (·.key = key)).map fun e => e.duration.getD 0).sum
          else none) ∧
      (∀ a : Aggregator, a.active = false →
        a.replayCounted (ofText text).entries = (kinds.countP LineKind.isEntry, a)) ∧
      ∀ second, (ofText second).fault = none →
        (ofText (followedBy text second)).fault = none ∧
        ∀ a : Aggregator,
          a.replayCounted (ofText (followedBy text second)).entries =
            let done := a.replayCounted (ofText text).entries
            let more := done.2.replayCounted (ofText second).entries
            (done.1 + more.1, more.2) := by
  obtain ⟨kinds, hkinds⟩ := exists_kinds (fault_ofLines_eq_none_iff.mp hread)
  have hlines : ofText text = _ := hkinds.ofLines_eq
  have hcount : (ofText text).entries.length = kinds.countP LineKind.isEntry := by
    rw [hlines]
    exact length_entries kinds
  refine ⟨kinds, hkinds, fun others h => h.unique hkinds, by rw [hlines], by rw [hlines],
    ?_, ?_, ?_, ?_⟩
  · rw [hlines]
    exact length_warnings kinds 1
  · intro a hactive hempty
    rw [Aggregator.replayCounted_eq]
    refine ⟨hcount, Aggregator.executions_replay hactive hempty _, fun key => ?_⟩
    exact Aggregator.total_replay hactive hempty _ key
  · intro a hidle
    rw [Aggregator.replayCounted_of_idle hidle, hcount]
  · intro second hsecond
    obtain ⟨hfault, hentries⟩ := ofText_followedBy hread hsecond
    refine ⟨hfault, fun a => ?_⟩
    rw [hentries]
    exact Aggregator.replayCounted_append a _ _

/-- A note, a timed and an untimed entry of one key, an empty line, a line that is no JSON,
and an entry of another key on a last line that is left open. -/
def mixedTrace : String :=
  "# second day\n" ++
  "\x7b\"file\": \"a.sk\", \"line\": 3, \"duration_ns\": 40\x7d\n" ++
  "\n" ++
  "\x7b\"file\"\n" ++
  "\x7b\"file\": \"a.sk\", \"line\": 3\x7d\n" ++
  "\x7b\"file\": \"b.sk\", \"line\": 7, \"duration_ns\": -5\x7d"

theorem replay_mixedTrace :
    (ofText mixedTrace).fault = none ∧
    (Aggregator.fresh.start (.zero false)).value.2.active = true ∧
    (Aggregator.fresh.start (.zero false)).value.2.records.isEmpty = true ∧
    Aggregator.fresh.active = false ∧
    (ofText mixedTrace).log = [⟨.warning, .trace, "Skipping trace entry: " ++
      "Malformed trace entry on line 4 (line=4, reason=invalid JSON: Expecting ':' delimiter)"⟩] ∧
    (let done :=
        (Aggregator.fresh.start (.zero false)).value.2.replayCounted (ofText mixedTrace).entries
     done.1 = 3 ∧ Metrics.executions done.2.snapshot = 3 ∧
     (done.2.snapshot.get? ⟨"a.sk", 3, "event"⟩).map Record.total = some 40) ∧
    Aggregator.fresh.replayCounted (ofText mixedTrace).entries = (3, .fresh) ∧
    ((Aggregator.fresh.start (.zero false)).value.2.replayCounted
      (ofText (followedBy mixedTrace mixedTrace)).entries).1 = 6 := by
  obtain ⟨hnone, hlog, hentries⟩ : (ofText mixedTrace).fault.isNone = true ∧
      (ofText mixedTrace).log = [⟨.warning, .trace, "Skipping trace entry: " ++
        "Malformed trace entry on line 4 (line=4, reason=invalid JSON: Expecting ':' delimiter)"⟩] ∧
      (ofText mixedTrace).entries = [⟨⟨"a.sk", 3, "event"⟩, "", some 40⟩,
        ⟨⟨"a.sk", 3, "event"⟩, "", none⟩, ⟨⟨"b.sk", 7, "event"⟩, "", some (-5)⟩] := by
    decide +kernel
  have hread : (ofText mixedTrace).fault = none := Option.isNone_iff_eq_none.mp hnone
  have hactive : (Aggregator.fresh.start (.zero false)).value.2.active = true := by decide
  have hempty : (Aggregator.fresh.start (.zero false)).value.2.records.isEmpty = true := by decide
  have hidle : Aggregator.fresh.active = false := by decide
  obtain ⟨kinds, -, -, -, -, -, hrun, hdrop, hjoin⟩ := replay_conserves mixedTrace hread
  obtain ⟨hcount, hexecutions, htotal⟩ := hrun _ hactive hempty
  have hthree : ((Aggregator.fresh.start (.zero false)).value.2.replayCounted
      (ofText mixedTrace).entries).1 = 3 := by
    rw [hentries]
    decide
  refine ⟨hread, hactive, hempty, hidle, hlog, ⟨hthree, ?_, ?_⟩, ?_, ?_⟩
  · rw [hexecutions, hthree]
    rfl
  · rw [htotal, hentries]
    decide
  · rw [hdrop _ hidle, ← hcount, hthree]
  · rw [(hjoin mixedTrace hread).2, hentries]
    decide

end TraceReading
end ScriptProfiling
