import ScriptProfiling.Proofs.Files.Path
import ScriptProfiling.Proofs.Markup.Number
import ScriptProfiling.Proofs.Report.Totality

/-!
# Text reports are valid markup

The lines of a report are read one after another, and no line asks anything of the text
before it but the line end. Numbers and titles are quiet, styles are closed behind the text
they stand around, and names, places and descriptions are escaped. What is not quiet, a
place in a script, has no slash, so all that it can begin is a tag that opens something.
-/
namespace ScriptProfiling

open Scanner

namespace Report

variable {loose : Prop} {kept : List OpenTag}

/-- Lines, each behind a line end, that can be read wherever they stand. -/
def Sound (loose : Prop) (lines : List String) : Prop :=
  Reads loose (Keeps []) (lines.flatMap fun l => '\n' :: l.toList) (Keeps [])

section Sound

variable {lines more : List String} {line : String}

theorem sound_nil : Sound loose [] := ⟨fun _ hs => hs⟩

theorem Sound.append (h : Sound loose lines) (hmore : Sound loose more) :
    Sound loose (lines ++ more) := by
  unfold Sound
  rw [List.flatMap_append]
  exact Reads.append h hmore

theorem reads_lineEnd : Reads loose (Keeps kept) ['\n'] (Even kept) :=
  reads_quiet_even (by decide) (by decide)

theorem sound_line (h : Reads loose (Even []) line.toList (Keeps [])) : Sound loose [line] := by
  unfold Sound
  rw [List.flatMap_singleton]
  exact reads_lineEnd.append h

theorem Sound.cons (h : Reads loose (Even []) line.toList (Keeps [])) (hlines : Sound loose lines) :
    Sound loose (line :: lines) :=
  (sound_line h).append hlines

theorem sound_quiet (h : ∀ l ∈ lines, Quiet l.toList) : Sound loose lines := by
  refine reads_quiet fun c hc => ?_
  obtain ⟨l, hl, hc⟩ := List.mem_flatMap.mp hc
  rcases List.mem_cons.mp hc with rfl | hc
  · rfl
  · exact h l hl c hc

theorem sound_blank : Sound loose [""] := sound_quiet (by decide)

theorem sound_flatten {blocks : List (List String)} (h : ∀ lines ∈ blocks, Sound loose lines) :
    Sound loose blocks.flatten := by
  induction blocks with
  | nil => exact sound_nil
  | cons lines blocks ih =>
    obtain ⟨hlines, hblocks⟩ := List.forall_mem_cons.mp h
    exact hlines.append (ih hblocks)

end Sound

section Parts

variable {style : String} {text : String}

/-- The styles of a report. -/
def palette : List String :=
  ["gold1", "bold yellow", "bold cyan", "bold dark_red", "red", "yellow", "green", "white"]

theorem isStyle_of_mem_palette : ∀ style ∈ palette, IsStyle style := by decide +kernel

theorem reads_styled (h : style ∈ palette)
    (htext : Reads loose (Idle [⟨style, []⟩]) text.toList (Keeps [⟨style, []⟩])) :
    Reads loose (Even []) (styled style text).toList (Idle []) := by
  have hstyle := isStyle_of_mem_palette style h
  have hsplit : (styled style text).toList = '[' :: (style.toList ++ [']']) ++
      (text.toList ++ '[' :: ('/' :: style.toList ++ [']'])) := by
    simp [styled]
  rw [hsplit]
  exact (reads_open hstyle).append (htext.append (reads_close hstyle))

theorem reads_indented (h : style ∈ palette)
    (htext : Reads loose (Idle [⟨style, []⟩]) text.toList (Keeps [⟨style, []⟩])) :
    Reads loose (Even []) ("  " ++ styled style text).toList (Idle []) := by
  have sound_blank : Reads loose (Even []) "  ".toList (Even []) :=
    (reads_quiet_even (by decide) (by decide)).mono_left fun _ hs => hs.kept
  rw [String.toList_append]
  exact sound_blank.append (reads_styled h htext)

theorem toList_escapeMarkup (s : String) : (escapeMarkup s).toList = escapeChars s.toList :=
  String.toList_ofList

theorem toList_placeText (file : String) (line : Int) :
    (MetricKey.placeText file line).toList = file.toList ++ ':' :: (wholeText line).toList := by
  simp [MetricKey.placeText]

theorem toList_shortPlace (file : String) (line : Int) :
    (shortPlace file line).toList =
      shortFileName file.toList ++ ':' :: (wholeText line).toList := by
  rw [shortPlace, toList_placeText, String.toList_ofList]

theorem mem_placeText {file : String} {line : Int} {c : Char}
    (h : c ∈ (MetricKey.placeText file line).toList) :
    c ∈ file.toList ∨ c = ':' ∨ c = '-' ∨ c.isDigit = true := by
  rw [toList_placeText, List.mem_append, List.mem_cons] at h
  exact h.imp_right (Or.imp_right mem_wholeText)

theorem mem_shortPlace {file : String} {line : Int} {c : Char}
    (h : c ∈ (shortPlace file line).toList) :
    c ∈ shortFileName file.toList ∨ c = ':' ∨ c = '-' ∨ c.isDigit = true := by
  have hplace := mem_placeText h
  rwa [String.toList_ofList] at hplace

theorem not_mem_placeText {file : String} {c : Char} (h : c ∉ file.toList)
    (hc : c ≠ ':' ∧ c ≠ '-' ∧ c.isDigit = false) (line : Int) :
    c ∉ (MetricKey.placeText file line).toList := by
  intro hmem
  rcases mem_placeText hmem with hfile | hcolon | hsign | hdigit
  · exact h hfile
  · exact hc.1 hcolon
  · exact hc.2.1 hsign
  · exact Bool.false_ne_true (hc.2.2.symm.trans hdigit)

theorem not_mem_shortPlace {file : String} {c : Char} (h : c ∉ shortFileName file.toList)
    (hc : c ≠ ':' ∧ c ≠ '-' ∧ c.isDigit = false) (line : Int) :
    c ∉ (shortPlace file line).toList :=
  not_mem_placeText (by rwa [String.toList_ofList]) hc line

theorem exists_getLast?_placeText (file : String) (line : Int) :
    ∃ c, (MetricKey.placeText file line).toList.getLast? = some c ∧ c ≠ '[' ∧ c ≠ '\\' := by
  obtain ⟨c, hlast, hdigit⟩ := exists_getLast?_wholeText line
  have hquiet : (c ≠ '[' ∧ c ≠ ']') ∧ c ≠ '\\' := by
    simpa [isQuiet, isBracket, isBackslash] using isQuiet_of_isDigit hdigit
  refine ⟨c, ?_, hquiet.1.1, hquiet.2⟩
  rw [toList_placeText, List.getLast?_append, List.getLast?_cons, hlast]
  rfl

theorem slash_not_mem_shortPlace (file : String) (line : Int) :
    '/' ∉ (shortPlace file line).toList :=
  not_mem_shortPlace (slash_not_mem_shortFileName _) (by decide) line

theorem bracket_of_mem_shortPlace {file : String} {line : Int}
    (h : '[' ∈ (shortPlace file line).toList) : '[' ∈ file.toList := by
  by_contra hfile
  refine not_mem_shortPlace (fun hname => ?_) (by decide) line h
  rcases (mem_shortFileName hname).2 with hmem | hunknown
  · exact hfile hmem
  · exact absurd hunknown (by decide)

/-- A place in a script completes no tag, and at most it begins one that opens something. -/
theorem reads_location {file : String} (line : Int) (h : '[' ∈ file.toList → loose) :
    Reads loose (Idle kept) (escapeMarkup (shortPlace file line)).toList
      (Ready loose kept) := by
  obtain ⟨c, hlast, hbracket, hback⟩ :=
    exists_getLast?_placeText (String.ofList (shortFileName file.toList)) line
  rw [toList_escapeMarkup]
  exact reads_escaped_calm (slash_not_mem_shortPlace file line) hlast hbracket
    (beq_false_of_ne hback) fun hmem => h (bracket_of_mem_shortPlace hmem)

theorem reads_escapeMarkup (s : String) :
    Reads loose (Ready loose kept) (escapeMarkup s).toList (Keeps kept) := by
  rw [toList_escapeMarkup]
  exact reads_escaped s.toList

end Parts

section Lines

theorem reads_title {style title : String} (hstyle : style ∈ palette) (h : Quiet title.toList) :
    Reads loose (Even []) (styled style title).toList (Keeps []) :=
  (reads_styled hstyle ((reads_quiet h).mono_left fun _ hs => hs.kept)).mono_right
    fun _ hs => hs.kept

theorem sound_heading {title : String} (h : Quiet title.toList) : Sound loose [heading title] :=
  sound_line (reads_title (by decide) h)

theorem toList_rule : rule.toList = List.replicate 60 '═' := String.toList_ofList

theorem tame_rule : Tame rule.toList := by
  have htame : isTame '═' = true := by decide
  rw [toList_rule]
  exact tame_replicate htame 60

theorem quiet_rule : Quiet rule.toList := tame_rule.quiet

theorem sound_framed {frame title : String} (hframe : Quiet frame.toList)
    (h : Quiet title.toList) :
    Sound loose [styled "gold1" frame, styled "bold yellow" title, styled "gold1" frame] :=
  .cons (reads_title (by decide) hframe)
    (.cons (reads_title (by decide) h) (sound_line (reads_title (by decide) hframe)))

theorem sound_header {title : String} (h : Quiet title.toList) : Sound loose (header title) := by
  unfold header
  exact sound_framed quiet_rule (quiet_append.mpr ⟨by decide, h⟩)

theorem tame_summary {input : ReportInput} {load : Number} {lines : List String}
    (h : summary input load = .ok lines) :
    ∃ facts, lines = heading "Summary:" :: facts ∧ ∀ l ∈ facts, Tame l.toList := by
  obtain ⟨total, -, h⟩ := bind_eq_ok.mp h
  obtain ⟨duration, -, h⟩ := bind_eq_ok.mp h
  obtain ⟨loadText, hload, h⟩ := bind_eq_ok.mp h
  obtain ⟨executions, hexecutions, h⟩ := bind_eq_ok.mp h
  obtain rfl := pure_eq_ok.mp h
  refine ⟨_, rfl, ?_⟩
  simp only [List.forall_mem_cons, tame_append, tame_fixedText, tame_wholeText,
    tame_hundredths hload, tame_wholeTextLimited hexecutions]
  decide

theorem sound_summary {input : ReportInput} {load : Number} {lines : List String}
    (h : summary input load = .ok lines) : Sound loose lines := by
  obtain ⟨facts, rfl, hfacts⟩ := tame_summary h
  exact (sound_heading (by decide)).append (sound_quiet (quiet_of_tame hfacts))

theorem speedStyle_mem_palette (average : Binary64) : speedStyle average ∈ palette := by
  unfold speedStyle
  split
  · decide
  · split <;> decide

theorem severityStyle_mem_palette (severity : Severity) : severityStyle severity ∈ palette := by
  cases severity <;> decide

/-- The title of a slow operation: its rank, its place and its name. -/
def operationTitle (rank : Nat) (r : Rated) : String :=
  wholeText rank ++ ". " ++ escapeMarkup (shortPlace r.record.key.file r.record.key.line) ++
    " - " ++ escapeMarkup r.record.name

theorem slowLines_eq_ok {r : Rated} {rank : Nat} {lines : List String}
    (h : slowLines rank r = .ok lines) :
    ∃ figures, lines = ["  " ++ styled (speedStyle r.average) (operationTitle rank r), figures] ∧
      Tame figures.toList := by
  obtain ⟨place, hplace, h⟩ := bind_eq_ok.mp h
  obtain ⟨-, rfl⟩ := shortLocation_eq_ok.mp hplace
  obtain ⟨longest, -, h⟩ := bind_eq_ok.mp h
  obtain ⟨count, hcount, h⟩ := bind_eq_ok.mp h
  obtain rfl := pure_eq_ok.mp h
  refine ⟨_, rfl, ?_⟩
  simp only [tame_append, tame_fixedText, tame_wholeTextLimited hcount]
  decide

/-- The name of an operation ends before its style does, and the place before the name. -/
theorem reads_operation (rank : Nat) {r : Rated} (hfile : '[' ∈ r.record.key.file.toList → loose) :
    Reads loose (Even []) ("  " ++ styled (speedStyle r.average) (operationTitle rank r)).toList
      (Idle []) := by
  refine reads_indented (speedStyle_mem_palette r.average) ?_
  have hrank : Quiet (wholeText rank ++ ". ").toList :=
    quiet_append.mpr ⟨quiet_wholeText _, by decide⟩
  rw [operationTitle, String.toList_append, String.toList_append, String.toList_append]
  exact (((reads_quiet_idle hrank).append (reads_location _ hfile)).append
    (reads_quiet_ready (by decide))).append (reads_escapeMarkup _)

theorem sound_slowLines {r : Rated} {rank : Nat} {lines : List String}
    (h : slowLines rank r = .ok lines) (hfile : '[' ∈ r.record.key.file.toList → loose) :
    Sound loose lines := by
  obtain ⟨figures, rfl, hfigures⟩ := slowLines_eq_ok h
  exact .cons ((reads_operation rank hfile).mono_right fun _ hs => hs.kept)
    (sound_quiet (List.forall_mem_singleton.mpr hfigures.quiet))

theorem sound_slowestSection {t : Thresholds} {records : List (Record Int)} {lines : List String}
    (h : slowestSection t records = .ok lines)
    (hfiles : ∀ r ∈ records, '[' ∈ r.key.file.toList → loose) : Sound loose lines := by
  obtain ⟨rated, hrated, h⟩ := bind_eq_ok.mp h
  obtain ⟨listed, hlisted, h⟩ := bind_eq_ok.mp h
  obtain ⟨blocks, hblocks, h⟩ := bind_eq_ok.mp h
  obtain rfl := pure_eq_ok.mp h
  refine (sound_heading (by decide)).append (sound_flatten fun block hblock => ?_)
  obtain ⟨r, hr, hlines⟩ := exists_of_mem_mapM hblocks hblock
  have hrecord := mem_of_slowestFirst hrated r.2 (mem_of_firstOf hlisted r.2 (mem_of_mem_ranked hr))
  exact sound_slowLines hlines (hfiles _ hrecord)

/-- The label stands in brackets that are text: the first of them is escaped, and no small
letter follows it. -/
theorem reads_label (severity : Severity) :
    Reads loose (Idle kept) ("\\[" ++ severity.label ++ "] ").toList (Idle kept) := by
  refine ⟨fun ⟨odd, candidate, tags⟩ ⟨⟨hodd, hkept⟩, hcandidate⟩ => ?_⟩
  obtain rfl : odd = false := hodd
  obtain rfl : candidate = none := hcandidate
  cases severity <;> exact ⟨⟨rfl, hkept⟩, rfl⟩

theorem quiet_displayName (kind : IssueKind) : Quiet kind.displayName.toList := by
  cases kind <;> decide

theorem reads_issueTitle (i : Issue) :
    Reads loose (Even []) ("  " ++ styled (severityStyle i.severity)
      ("\\[" ++ i.severity.label ++ "] " ++ i.kind.displayName)).toList (Idle []) := by
  refine reads_indented (severityStyle_mem_palette i.severity) ?_
  rw [String.toList_append]
  exact ((reads_label i.severity).append (reads_quiet_idle (quiet_displayName i.kind))).mono_right
    fun _ hs => hs.kept

theorem sound_suggestion (suggestion : String) :
    Sound loose ["  " ++ styled "green" ("Suggestion: " ++ escapeMarkup suggestion)] := by
  refine sound_line ((reads_indented (by decide) ?_).mono_right fun _ hs => hs.kept)
  rw [String.toList_append]
  exact ((reads_quiet_idle (by decide)).mono_right fun _ hs => hs.ready).append
    (reads_escapeMarkup suggestion)

/-- The lines of an issue, its place written as it is. -/
def findingLines (t : Thresholds) (i : Issue) : List String :=
  ["", "  " ++ styled (severityStyle i.severity)
      ("\\[" ++ i.severity.label ++ "] " ++ i.kind.displayName),
    "  Location: " ++ escapeMarkup (shortPlace i.file i.line),
    "  Issue: " ++ escapeMarkup i.description] ++
  if t.suggestions.truthy then
    ["  " ++ styled "green" ("Suggestion: " ++ escapeMarkup i.suggestion)]
  else []

theorem issueLines_eq_ok {t : Thresholds} {i : Issue} {lines : List String} :
    issueLines t i = .ok lines ↔ WithinDigits i.line ∧ lines = findingLines t i := by
  constructor
  · intro h
    obtain ⟨place, hplace, h⟩ := bind_eq_ok.mp h
    obtain ⟨hline, rfl⟩ := shortLocation_eq_ok.mp hplace
    exact ⟨hline, (pure_eq_ok.mp h).symm⟩
  · rintro ⟨hline, rfl⟩
    exact bind_eq_ok.mpr ⟨_, shortLocation_eq_ok.mpr ⟨hline, rfl⟩, rfl⟩

/-- The place and the description of an issue are read in one go: what the place begins may
go on in the description. -/
theorem sound_findingLines (t : Thresholds) {i : Issue} (hfile : '[' ∈ i.file.toList → loose) :
    Sound loose (findingLines t i) := by
  have hplaceName : Quiet ('\n' :: "  Location: ".toList) := by decide
  have hplace : Reads loose (Idle [])
      ('\n' :: ("  Location: " ++ escapeMarkup (shortPlace i.file i.line)).toList)
      (Ready loose []) := by
    rw [String.toList_append]
    exact (reads_quiet_idle hplaceName).append (reads_location i.line hfile)
  have hissueName : Quiet ('\n' :: "  Issue: ".toList) := by decide
  have hissue : Reads loose (Ready loose [])
      ('\n' :: ("  Issue: " ++ escapeMarkup i.description).toList) (Keeps []) := by
    rw [String.toList_append]
    exact (reads_quiet_ready hissueName).append (reads_escapeMarkup i.description)
  have hbody : Sound loose ["  " ++ styled (severityStyle i.severity)
      ("\\[" ++ i.severity.label ++ "] " ++ i.kind.displayName),
      "  Location: " ++ escapeMarkup (shortPlace i.file i.line),
      "  Issue: " ++ escapeMarkup i.description] := by
    unfold Sound
    simp only [List.flatMap_cons, List.flatMap_nil, List.append_nil]
    exact (reads_lineEnd.append (reads_issueTitle i)).append (hplace.append hissue)
  unfold findingLines
  refine .append (sound_blank.append hbody) ?_
  split
  · exact sound_suggestion i.suggestion
  · exact sound_nil

theorem tame_hiddenLines (t : Thresholds) (count : Nat) :
    ∀ l ∈ hiddenLines t count, Tame l.toList := by
  unfold hiddenLines
  split
  · split
    · simp only [List.forall_mem_cons, tame_append, tame_wholeText]
      decide
    · exact List.forall_mem_nil _
  · exact List.forall_mem_nil _

theorem sound_issuesSection {t : Thresholds} {issues : List Issue} {lines : List String}
    (h : issuesSection t issues = .ok lines)
    (hfiles : ∀ i ∈ issues, '[' ∈ i.file.toList → loose) : Sound loose lines := by
  unfold issuesSection at h
  split at h
  · obtain rfl := Except.ok.inj h
    exact (sound_heading (by decide)).append (sound_quiet (by decide))
  · obtain ⟨listed, hlisted, h⟩ := bind_eq_ok.mp h
    obtain ⟨blocks, hblocks, h⟩ := bind_eq_ok.mp h
    obtain rfl := pure_eq_ok.mp h
    have hhidden : Sound loose (hiddenLines t issues.length) :=
      sound_quiet (quiet_of_tame (tame_hiddenLines t issues.length))
    refine (sound_heading (by decide)).append (.append ?_ hhidden)
    refine sound_flatten fun block hblock => ?_
    obtain ⟨i, hi, hlines⟩ := exists_of_mem_mapM hblocks hblock
    obtain ⟨-, rfl⟩ := issueLines_eq_ok.mp hlines
    exact sound_findingLines t (hfiles i (mem_of_firstOf hlisted i hi))

/-- What is told of a script: its five counts. -/
def factTexts (s : ScriptInfo) : List String :=
  ["    Events: " ++ wholeText s.events ++ " | Functions: " ++ wholeText s.functions ++
      " | Commands: " ++ wholeText s.commands,
    "    Loops: " ++ wholeText s.loops ++ " | Variable accesses: " ++
      wholeText s.variableAccesses]

theorem factLines_eq_ok {s : ScriptInfo} {lines : List String} (h : factLines s = .ok lines) :
    lines = factTexts s := by
  obtain ⟨events, hevents, h⟩ := bind_eq_ok.mp h
  obtain ⟨functions, hfunctions, h⟩ := bind_eq_ok.mp h
  obtain ⟨commands, hcommands, h⟩ := bind_eq_ok.mp h
  obtain ⟨loops, hloops, h⟩ := bind_eq_ok.mp h
  obtain ⟨accesses, haccesses, h⟩ := bind_eq_ok.mp h
  rw [← pure_eq_ok.mp h, (wholeTextLimited_eq_ok.mp hevents).2,
    (wholeTextLimited_eq_ok.mp hfunctions).2, (wholeTextLimited_eq_ok.mp hcommands).2,
    (wholeTextLimited_eq_ok.mp hloops).2, (wholeTextLimited_eq_ok.mp haccesses).2]
  rfl

/-- What is told of a script that may be unknown. -/
def factsOf (script : Option ScriptInfo) : List String := (script.map factTexts).getD []

theorem knownFacts_eq_ok {input : ReportInput} {file : String} {lines : List String}
    (h : knownFacts input file = .ok lines) : lines = factsOf (input.scripts.get? file) := by
  unfold knownFacts at h
  split at h
  · next s hs =>
    rw [factLines_eq_ok h, hs]
    rfl
  · next hnone =>
    rw [← Except.ok.inj h, hnone]
    rfl

theorem tame_factsOf (script : Option ScriptInfo) : ∀ l ∈ factsOf script, Tame l.toList := by
  cases script with
  | none => exact List.forall_mem_nil _
  | some s =>
    simp only [factsOf, Option.map_some, Option.getD_some, factTexts, List.forall_mem_cons,
      tame_append, tame_wholeText]
    decide

/-- What is told of a record in a breakdown: its line, its average and its count. -/
def recordText (r : Rated) : String :=
  "    Line " ++ wholeText r.record.key.line ++ ": " ++ r.average.fixedText 2 ++ "ms avg (" ++
    wholeText r.record.count ++ " executions)"

theorem breakdownLine_eq_ok {r : Rated} {line : String} (h : breakdownLine r = .ok line) :
    line = recordText r := by
  obtain ⟨number, hnumber, h⟩ := bind_eq_ok.mp h
  obtain ⟨count, hcount, h⟩ := bind_eq_ok.mp h
  rw [← pure_eq_ok.mp h, (wholeTextLimited_eq_ok.mp hnumber).2,
    (wholeTextLimited_eq_ok.mp hcount).2]
  rfl

theorem breakdownLines_eq_ok {listed : List Rated} {lines : List String}
    (h : listed.mapM breakdownLine = .ok lines) : lines = listed.map recordText := by
  have hsame : lines.map id = listed.map recordText :=
    map_of_mapM (fun r _ line hline => breakdownLine_eq_ok hline) h
  rwa [List.map_id] at hsame

theorem tame_recordText (r : Rated) : Tame (recordText r).toList := by
  simp only [recordText, tame_append, tame_wholeText, tame_fixedText]
  decide

def fileTitle (file : String) : String :=
  escapeMarkup (String.ofList (shortFileName file.toList)) ++ ":"

/-- The lines of a file: its title, the counts of its script if that is known, and its slowest
records. -/
def fileTexts (file : String) (script : Option ScriptInfo) (listed : List Rated) : List String :=
  "" :: ("  " ++ styled "yellow" (fileTitle file)) :: (factsOf script ++ listed.map recordText)

theorem fileBlock_eq_ok {input : ReportInput} {file : String} {lines : List String}
    (h : fileBlock input file = .ok lines) : ∃ rated listed,
      slowestFirst (input.metrics.values.filter (·.key.file == file)) = .ok rated ∧
      firstOf linesPerScript rated = .ok listed ∧
      lines = fileTexts file (input.scripts.get? file) listed := by
  obtain ⟨facts, hfacts, h⟩ := bind_eq_ok.mp h
  obtain ⟨rated, hrated, h⟩ := bind_eq_ok.mp h
  obtain ⟨listed, hlisted, h⟩ := bind_eq_ok.mp h
  obtain ⟨told, htold, h⟩ := bind_eq_ok.mp h
  obtain rfl := pure_eq_ok.mp h
  rw [knownFacts_eq_ok hfacts, breakdownLines_eq_ok htold]
  exact ⟨rated, listed, hrated, hlisted, rfl⟩

theorem tame_below (script : Option ScriptInfo) (listed : List Rated) :
    ∀ l ∈ factsOf script ++ listed.map recordText, Tame l.toList :=
  List.forall_mem_append.mpr ⟨tame_factsOf script,
    List.forall_mem_map.mpr fun r _ => tame_recordText r⟩

theorem reads_file (file : String) :
    Reads loose (Even []) ("  " ++ styled "yellow" (fileTitle file)).toList (Idle []) := by
  refine reads_indented (by decide) ?_
  rw [fileTitle, String.toList_append]
  exact ((reads_escapeMarkup _).mono_left fun _ hs => hs.ready).append (reads_quiet (by decide))

theorem sound_fileBlock {input : ReportInput} {file : String} {lines : List String}
    (h : fileBlock input file = .ok lines) : Sound loose lines := by
  obtain ⟨rated, listed, -, -, rfl⟩ := fileBlock_eq_ok h
  exact sound_blank.append (.cons ((reads_file file).mono_right fun _ hs => hs.kept)
    (sound_quiet (quiet_of_tame (tame_below _ listed))))

theorem sound_breakdown {input : ReportInput} {lines : List String}
    (h : breakdown input = .ok lines) : Sound loose lines := by
  obtain ⟨blocks, hblocks, h⟩ := bind_eq_ok.mp h
  obtain rfl := pure_eq_ok.mp h
  refine (sound_heading (by decide)).append (sound_flatten fun block hblock => ?_)
  obtain ⟨file, -, hfile⟩ := exists_of_mem_mapM hblocks hblock
  exact sound_fileBlock hfile

theorem tame_tips (kinds : IssueKind × String → Bool) :
    ∀ l ∈ ((kindTips.filter kinds).map (·.2) ++ generalTips).map ("  • " ++ ·), Tame l.toList := by
  have htips : ∀ tip ∈ kindTips, Tame tip.2.toList := by
    simp only [kindTips, List.forall_mem_cons]
    exact ⟨tame_ofList rfl, tame_ofList rfl, tame_ofList rfl, tame_ofList rfl,
      tame_ofList rfl, tame_ofList rfl, nofun⟩
  have hgeneral : ∀ tip ∈ generalTips, Tame tip.toList := by
    simp only [generalTips, List.forall_mem_cons]
    exact ⟨tame_ofList rfl, tame_ofList rfl, tame_ofList rfl, nofun⟩
  intro line hline
  obtain ⟨tip, htip, rfl⟩ := List.mem_map.mp hline
  refine tame_append.mpr ⟨by decide, ?_⟩
  rcases List.mem_append.mp htip with htip | htip
  · obtain ⟨entry, hentry, rfl⟩ := List.mem_map.mp htip
    exact htips entry (List.mem_of_mem_filter hentry)
  · exact hgeneral tip htip

theorem sound_recommendations (issues : List Issue) : Sound loose (recommendations issues) :=
  (sound_heading (by decide)).append (sound_quiet (quiet_of_tame (tame_tips _)))

end Lines

section Whole

variable {t : Thresholds} {default : Number} {input : ReportInput} {detailed : Bool}

theorem sound_lines {ls : List String} (h : lines t default input detailed = .ok ls)
    (hrecords : ∀ r ∈ input.metrics.values, '[' ∈ r.key.file.toList → loose)
    (hissues : ∀ i ∈ input.issues, '[' ∈ i.file.toList → loose) : ls ≠ [] ∧ Sound loose ls := by
  obtain ⟨load, -, h⟩ := bind_eq_ok.mp h
  obtain ⟨overview, hoverview, h⟩ := bind_eq_ok.mp h
  obtain ⟨slowest, hslowest, h⟩ := bind_eq_ok.mp h
  obtain ⟨found, hfound, h⟩ := bind_eq_ok.mp h
  obtain ⟨details, hdetails, rfl⟩ : ∃ details, Sound loose details ∧
      header "SKRIPT PROFILER REPORT" ++ [""] ++ overview ++ [""] ++ slowest ++ [""] ++ found ++
        [""] ++ details ++ recommendations input.issues = ls := by
    cases detailed with
    | false => exact ⟨[], sound_nil, pure_eq_ok.mp h⟩
    | true =>
      obtain ⟨details, hdetails, h⟩ := bind_eq_ok.mp h
      obtain ⟨blocks, hblocks, rfl⟩ := map_eq_ok.mp hdetails
      exact ⟨_, (sound_breakdown hblocks).append sound_blank, pure_eq_ok.mp h⟩
  have hheader : Sound loose (header "SKRIPT PROFILER REPORT") := sound_header (by decide)
  have hoverview : Sound loose overview := sound_summary hoverview
  have hslowest : Sound loose slowest := sound_slowestSection hslowest hrecords
  have hfound : Sound loose found := sound_issuesSection hfound hissues
  have hopening : Sound loose
      (header "SKRIPT PROFILER REPORT" ++ [""] ++ overview ++ [""] ++ slowest ++ [""]) :=
    ((((hheader.append sound_blank).append hoverview).append sound_blank).append hslowest).append
      sound_blank
  exact ⟨by simp [recommendations], (((hopening.append hfound).append sound_blank).append
    hdetails).append (sound_recommendations _)⟩

theorem toList_joinLines {ls : List String} (h : ls ≠ []) :
    '\n' :: (joinLines ls).toList = ls.flatMap fun l => '\n' :: l.toList := by
  induction ls with
  | nil => exact absurd rfl h
  | cons l ls ih =>
    by_cases hls : ls = []
    · simp [joinLines, hls]
    · have hrest := ih hls
      rw [List.flatMap_cons, ← hrest, joinLines, String.intercalate_cons_of_ne_nil hls]
      simp [joinLines]

theorem Sound.stripMarkup_error {ls : List String} (h : Sound loose ls) (hne : ls ≠ []) {f : Fault}
    (hf : stripMarkup (joinLines ls) = .error f) : f.cls = .badValue ∧ loose := by
  have hscan : start.run ('\n' :: (joinLines ls).toList) = .error f.cls := cls_stripMarkup hf
  have hends := h.ends start (List.nil_subset _)
  rw [← toList_joinLines hne, hscan] at hends
  exact hends

theorem exists_sound_render {text : String} (h : render t default input detailed = .ok text)
    (hrecords : ∀ r ∈ input.metrics.values, '[' ∈ r.key.file.toList → loose)
    (hissues : ∀ i ∈ input.issues, '[' ∈ i.file.toList → loose) :
    ∃ ls, ls ≠ [] ∧ Sound loose ls ∧ joinLines ls = text := by
  unfold render at h
  split at h
  · obtain rfl := Except.ok.inj h
    exact ⟨[noDataMessage], List.cons_ne_nil _ _, sound_quiet (by decide),
      String.intercalate_singleton⟩
  · obtain ⟨ls, hlines, rfl⟩ := map_eq_ok.mp h
    obtain ⟨hne, hsound⟩ := sound_lines hlines hrecords hissues
    exact ⟨ls, hne, hsound, rfl⟩

end Whole

/-- Whatever operations, scripts and issues are called and say, a text report is valid
markup. All that can go wrong in reading it is a style that a bracket in a file name begins;
without such brackets the report can be read. -/
theorem render_valid {t : Thresholds} {default : Number} {input : ReportInput} {detailed : Bool}
    {text : String} (h : render t default input detailed = .ok text) :
    (∀ f, stripMarkup text = .error f → f.cls ≠ .badMarkup) ∧
    ((∀ r ∈ input.metrics.values, '[' ∉ r.key.file.toList) →
      (∀ i ∈ input.issues, '[' ∉ i.file.toList) → ∃ plain, stripMarkup text = .ok plain) := by
  constructor
  · intro f hf
    obtain ⟨ls, hne, hsound, rfl⟩ :=
      exists_sound_render h (fun _ _ _ => trivial) fun _ _ _ => trivial
    rw [(hsound.stripMarkup_error hne hf).1]
    nofun
  · intro hrecords hissues
    obtain ⟨ls, hne, hsound, rfl⟩ := exists_sound_render h hrecords hissues
    cases hread : stripMarkup (joinLines ls) with
    | ok plain => exact ⟨plain, rfl⟩
    | error f => exact (hsound.stripMarkup_error hne hread).2.elim

/-- An operation and an issue that are called like markup. -/
def forgedInput : ReportInput where
  metrics := .ofList [(⟨"plugins/[red", 3, "event"⟩,
    ⟨⟨"plugins/[red", 3, "event"⟩, "[/red] [/bold cyan] ] \\", 1, 5000000, 5000000, some 5000000⟩)]
  issues := [⟨.slowEvent, .critical, "[@click=f]\\", 3, "[/", "]\n[/green]\\\\\\", none⟩]
  scripts := .empty
  durationMs := .int 60000
  load := .int 20

theorem render_valid_forgedInput :
    ∃ text, render .default (.int 20) forgedInput true = .ok text ∧
      ∀ f, stripMarkup text = .error f → f.cls ≠ .badMarkup := by
  have hmodest : Modest forgedInput := by
    refine ⟨?_, ?_, ?_, ?_, rfl, .int 20, rfl, rfl⟩ <;> decide +kernel
  have hrender : (render .default (.int 20) forgedInput true).isOk = true :=
    hmodest.isOk_render rfl rfl (.inl rfl) true
  obtain ⟨text, htext⟩ := isOk_iff.mp hrender
  exact ⟨text, htext, (render_valid htext).1⟩

end Report
end ScriptProfiling
