import ScriptProfiling.Proofs.Detection.Wording
import ScriptProfiling.Proofs.Markup.Torn
import ScriptProfiling.Proofs.Report.Plain

/-!
# Reports line by line

Every style that a line of a report opens is closed on that line, so a report can be read line
by line unless a text from a script in a style has a line end in it. A place that stands in no
style may have one: it opens nothing, and the line behind it closes nothing. A text in a style
may not: its last line has the closing tag only.

Whoever looks for a line in the text of a report finds more than the report says if a text from
a script has line ends in it: what stands between two of them is a line like any other. Where no
such text has any, the lines of the text are those that it has been joined from.
-/
namespace ScriptProfiling

namespace Report

/-- Lines that can be read one by one, and that close no tag before them. -/
structure LineBlock (lines : List String) : Prop where
  linewise : Linewise (source lines)
  closes : closes (source lines) = false

section Blocks

variable {ls more : List String}

theorem LineBlock.append (h : LineBlock ls) (hmore : LineBlock more) : LineBlock (ls ++ more) := by
  constructor
  · rw [source_append]
    exact h.linewise.append hmore.linewise (atLineEnd_source _) fun _ => hmore.closes
  · rw [source_append, closes_append, h.closes, hmore.closes]
    exact ite_self false

theorem lineBlock_quiet (h : ∀ l ∈ ls, Quiet l.toList) : LineBlock ls := by
  refine ⟨?_, (block_quiet h).closes⟩
  cases ls with
  | nil => exact linewise_nil
  | cons l ls =>
    obtain ⟨hl, hls⟩ := List.forall_mem_cons.mp h
    have hquiet : Quiet (l.toList ++ source ls) :=
      List.forall_mem_append.mpr ⟨hl, quiet_source hls⟩
    exact linewise_flat hquiet.flat

theorem lineBlock_blank : LineBlock [""] := lineBlock_quiet (by decide)

theorem lineBlock_flatMap {α : Type} {xs : List α} {f : α → List String}
    (h : ∀ x ∈ xs, LineBlock (f x)) : LineBlock (xs.flatMap f) := by
  induction xs with
  | nil => exact lineBlock_quiet nofun
  | cons x xs ih =>
    obtain ⟨hx, hxs⟩ := List.forall_mem_cons.mp h
    rw [List.flatMap_cons]
    exact hx.append (ih hxs)

theorem Sound.eq_badValue {line : String} (h : Sound True [line]) {e : FaultClass}
    (he : (pieces line.toList).foldlM Piece.obey [] = .error e) : e = .badValue := by
  have hends := h.ends Scanner.start (List.nil_subset _)
  rw [List.flatMap_singleton] at hends
  have hscan : (Scanner.start.run line.toList).map Scanner.tags = .error e :=
    calc (Scanner.start.run line.toList).map Scanner.tags
      _ = Reader.outcome ((pieces line.toList).foldlM Reader.step .start) :=
        (Scanner.outcome_pieces .start line.toList).symm
      _ = (pieces line.toList).foldlM Piece.obey [] := Reader.outcome_foldlM .start _
      _ = .error e := he
  cases hrun : Scanner.start.run line.toList with
  | ok s =>
    rw [hrun] at hscan
    cases hscan
  | error f =>
    rw [hrun] at hscan
    obtain rfl := Except.error.inj hscan
    have hline : Scanner.start.run ('\n' :: line.toList) = .error f := hrun
    rw [hline] at hends
    exact hends.1

end Blocks

section Styled

variable {style indent text : String}

theorem lineEnd_not_mem_palette : ∀ style ∈ palette, '\n' ∉ style.toList := by decide

theorem lineEnd_not_mem_styled (hstyle : style ∈ palette) (htext : '\n' ∉ text.toList) :
    '\n' ∉ (styled style text).toList := by
  have hname := lineEnd_not_mem_palette style hstyle
  simp [styled, hname, htext]

theorem lineBlock_styled (hstyle : style ∈ palette) (hindent : indent = "" ∨ indent = "  ")
    (htext : '\n' ∉ text.toList) (hsound : Sound True [indent ++ styled style text]) :
    LineBlock [indent ++ styled style text] := by
  have hspaces : Tame indent.toList := by rcases hindent with rfl | rfl <;> decide
  refine ⟨?_, closes_source_styled hspaces.quiet style text⟩
  rw [source_singleton]
  refine linewise_line ?_ fun e he => hsound.eq_badValue he
  rw [String.toList_append]
  exact List.not_mem_append hspaces.oneLine (lineEnd_not_mem_styled hstyle htext)

theorem lineBlock_title (hstyle : style ∈ palette) (h : Tame text.toList) :
    LineBlock [styled style text] := by
  have hline : Sound True ["" ++ styled style text] := by
    rw [String.empty_append]
    exact sound_line (reads_title hstyle h.quiet)
  have hblock := lineBlock_styled hstyle (Or.inl rfl) h.oneLine hline
  rwa [String.empty_append] at hblock

theorem lineBlock_heading {title : String} (h : Tame title.toList) :
    LineBlock [Voice.markup.heading title] :=
  lineBlock_title (by decide) h

theorem lineBlock_header {title : String} (h : Tame title.toList) :
    LineBlock (Voice.markup.header title) := by
  have hindented : Tame ("  " ++ title).toList := tame_append.mpr ⟨by decide, h⟩
  have hgold : "gold1" ∈ palette := by decide
  have hyellow : "bold yellow" ∈ palette := by decide
  have hframe := lineBlock_title hgold tame_rule
  exact (hframe.append (lineBlock_title hyellow hindented)).append hframe

end Styled

section Findings

theorem lineEnd_not_mem_shortPlace {file : String} (h : '\n' ∉ shortFileName file.toList)
    (line : Int) : '\n' ∉ (shortPlace file line).toList :=
  not_mem_shortPlace h (by decide) line

/-- Neither the name nor the short file name of an operation has a line end. -/
structure Listed.OneLine (o : Listed) : Prop where
  name : '\n' ∉ o.rated.record.name.toList
  file : '\n' ∉ shortFileName o.rated.record.key.file.toList

theorem toList_operation (o : Listed) : (Voice.markup.operation o).toList =
    (wholeText o.rank ++ ". ").toList ++
      (escapeChars (shortPlace o.rated.record.key.file o.rated.record.key.line).toList ++
        (" - ".toList ++ escapeChars o.rated.record.name.toList)) := by
  have hmarkup : Voice.markup.operation o = wholeText o.rank ++ ". " ++
      escapeMarkup (shortPlace o.rated.record.key.file o.rated.record.key.line) ++ " - " ++
      escapeMarkup o.rated.record.name := rfl
  rw [hmarkup]
  simp only [String.toList_append, toList_escapeMarkup, List.append_assoc]

theorem lineEnd_not_mem_operation {o : Listed} (h : o.OneLine) :
    '\n' ∉ (Voice.markup.operation o).toList := by
  have hrank : '\n' ∉ (wholeText o.rank ++ ". ").toList := by
    rw [String.toList_append]
    exact List.not_mem_append (tame_wholeText _).oneLine (by decide)
  have hplace := lineEnd_not_mem_escapeChars
    (lineEnd_not_mem_shortPlace h.file o.rated.record.key.line)
  have hname := lineEnd_not_mem_escapeChars h.name
  rw [toList_operation]
  exact List.not_mem_append hrank (List.not_mem_append hplace
    (List.not_mem_append (by decide) hname))

theorem lineBlock_operation {o : Listed} (h : o.OneLine) :
    LineBlock ["  " ++ styled (speedStyle o.rated.average) (Voice.markup.operation o)] := by
  have hsound : Sound True ["  " ++ styled (speedStyle o.rated.average)
      (operationTitle o.rank o.rated)] :=
    sound_line ((reads_operation o.rank fun _ => trivial).mono_right fun _ hs => hs.kept)
  exact lineBlock_styled (speedStyle_mem_palette _) (Or.inr rfl) (lineEnd_not_mem_operation h)
    hsound

theorem escapeMarkup_eq_self {s : String} (h : Quiet s.toList) : escapeMarkup s = s := by
  have hslash : '\\' ∉ s.toList := fun hmem => absurd (h _ hmem) (by decide)
  rw [escapeMarkup, escapeChars_eq_escapedTags (getLast?_ne_backslash hslash),
    escapedTags_eq_self h.flat.notMem, String.ofList_toList]

theorem linewise_location (file : String) (line : Int) :
    Linewise (source ["  Location: " ++ escapeMarkup (shortPlace file line)]) := by
  have hback := backslash_not_mem_shortPlace file line
  have hlabel : Quiet "  Location: ".toList := by decide
  have hmarks := (marks_escapedTags hback).flat_append hlabel.flat
  rw [source_singleton, String.toList_append, toList_escapeMarkup,
    escapeChars_eq_escapedTags (getLast?_ne_backslash hback)]
  exact linewise_marks hmarks

theorem lineEnd_not_mem_issueTitle (i : Issue) :
    '\n' ∉ ("\\[" ++ i.severity.label ++ "] " ++ i.kind.displayName).toList := by
  have hlabel : '\n' ∉ i.severity.label.toList := by cases i.severity <;> decide
  have hkind : '\n' ∉ i.kind.displayName.toList := by cases i.kind <;> decide
  simp [hlabel, hkind]

theorem lineBlock_issueTitle (i : Issue) :
    LineBlock ["  " ++ styled (severityStyle i.severity)
      ("\\[" ++ i.severity.label ++ "] " ++ i.kind.displayName)] :=
  lineBlock_styled (severityStyle_mem_palette _) (Or.inr rfl) (lineEnd_not_mem_issueTitle i)
    (sound_line ((reads_issueTitle i).mono_right fun _ hs => hs.kept))

/-- The title of an issue has brackets, so the line below it can close nothing before it. -/
theorem lineBlock_issue (suggestions : Bool) {i : Issue} (h : i.Plain) :
    LineBlock (Voice.markup.issueLines suggestions i) := by
  have hopening := lineBlock_blank.append (lineBlock_issueTitle i)
  have hlocation : LineBlock (["", "  " ++ styled (severityStyle i.severity)
      ("\\[" ++ i.severity.label ++ "] " ++ i.kind.displayName)] ++
        ["  Location: " ++ escapeMarkup (shortPlace i.file i.line)]) := by
    constructor
    · rw [source_append]
      refine hopening.linewise.append (linewise_location _ _) (atLineEnd_source _) fun h => ?_
      exact absurd ((unfinished_source_styled ..).symm.trans h) Bool.false_ne_true
    · rw [source_append, closes_append, if_pos (any_source_styled ..)]
      exact hopening.closes
  have hdescription : LineBlock ["  Issue: " ++ escapeMarkup i.description] := by
    rw [escapeMarkup_eq_self h.description.quiet]
    exact lineBlock_quiet (List.forall_mem_singleton.mpr
      (quiet_append.mpr ⟨by decide, h.description.quiet⟩))
  have hfour := hlocation.append hdescription
  cases suggestions with
  | false => exact hfour
  | true =>
    have hsuggestion : LineBlock
        ["  " ++ styled "green" ("Suggestion: " ++ escapeMarkup i.suggestion)] := by
      refine lineBlock_styled (by decide) (Or.inr rfl) ?_ (sound_suggestion i.suggestion)
      rw [escapeMarkup_eq_self h.suggestion.quiet]
      exact (tame_append.mpr ⟨by decide, h.suggestion⟩).oneLine
    exact hfour.append hsuggestion

theorem lineEnd_not_mem_fileTitle {file : String} (h : '\n' ∉ shortFileName file.toList) :
    '\n' ∉ (fileTitle file).toList := by
  rw [fileTitle, String.toList_append, toList_escapeMarkup, String.toList_ofList]
  exact List.not_mem_append (lineEnd_not_mem_escapeChars h) (by decide)

theorem lineBlock_file {file : String × List String} (hname : '\n' ∉ shortFileName file.1.toList)
    (h : ∀ l ∈ file.2, Tame l.toList) : LineBlock (Voice.markup.fileLines file) := by
  have htitle : LineBlock ["  " ++ styled "yellow" (fileTitle file.1)] := by
    exact lineBlock_styled (by decide) (Or.inr rfl) (lineEnd_not_mem_fileTitle hname)
      (sound_line ((reads_file file.1).mono_right fun _ hs => hs.kept))
  exact (lineBlock_blank.append htitle).append (lineBlock_quiet (quiet_of_tame h))

end Findings

section Whole

/-- What stands in a style has no line end in it. -/
structure Content.OneLine (c : Content) : Prop where
  operations : ∀ o ∈ c.slowest, o.OneLine
  files : ∀ listed ∈ c.files, ∀ file ∈ listed, '\n' ∉ shortFileName file.1.toList

theorem lineBlock_breakdown {files : Option (List (String × List String))}
    (hnames : ∀ listed ∈ files, ∀ file ∈ listed, '\n' ∉ shortFileName file.1.toList)
    (h : ∀ listed ∈ files, ∀ file ∈ listed, ∀ l ∈ file.2, Tame l.toList) :
    LineBlock (Voice.markup.breakdown files) := by
  cases files with
  | none => exact lineBlock_quiet nofun
  | some listed =>
    have hfiles := lineBlock_flatMap fun file hfile =>
      lineBlock_file (hnames listed rfl file hfile) (h listed rfl file hfile)
    exact ((lineBlock_heading (by decide)).append hfiles).append lineBlock_blank

theorem lineBlock_write {input : ReportInput} {c : Content} (hof : c.Of input)
    (hissues : ∀ i ∈ c.issues, i.Plain) (h : c.OneLine) : LineBlock (Voice.markup.write c) := by
  have hslowest := lineBlock_flatMap fun o ho => (lineBlock_operation (h.operations o ho)).append
    (lineBlock_quiet (quiet_of_tame (hof.slowest o ho).2))
  have hfound := lineBlock_flatMap fun i hi => lineBlock_issue c.suggestions (hissues i hi)
  have hfiles := lineBlock_breakdown h.files fun listed hlisted file hfile =>
    (hof.files listed hlisted file hfile).2
  have hplain : ∀ title ∈ ["SKRIPT PROFILER REPORT", "Summary:", "Top Slowest Operations:",
      "General Recommendations:"], Tame title.toList := by decide
  simp only [List.forall_mem_cons] at hplain
  obtain ⟨hname, hoverview, hslow, hadvice, -⟩ := hplain
  have hsummary := (lineBlock_heading hoverview).append (lineBlock_quiet (quiet_of_tame hof.facts))
  have htop := (lineBlock_heading hslow).append hslowest
  have hissues := (lineBlock_heading hof.verdict).append
    (hfound.append (lineBlock_quiet (quiet_of_tame hof.remarks)))
  have htips := (lineBlock_heading hadvice).append (lineBlock_quiet (quiet_of_tame hof.tips))
  have hheader := lineBlock_header hname
  have hfirst := ((hheader.append lineBlock_blank).append hsummary).append lineBlock_blank
  have hmiddle := ((hfirst.append htop).append lineBlock_blank).append hissues
  exact ((hmiddle.append lineBlock_blank).append hfiles).append htips

end Whole

section Lines

variable {ls : List String} {line : String}

theorem linesOf_source (ls : List String) :
    linesOf (source ls) = ls.flatMap fun l => splitAt '\n' l.toList := by
  induction ls with
  | nil => rfl
  | cons l ls ih =>
    have hsplit : source (l :: ls) = source [l] ++ source ls := source_append [l] ls
    rw [hsplit, linesOf_append (atLineEnd_source ls), ih, source_singleton, linesOf_cons]
    rfl

theorem splitLines_joinLines (hne : ls ≠ []) :
    splitLines (joinLines ls) = (ls.flatMap fun l => splitAt '\n' l.toList).map String.ofList := by
  have hsource : source ls = '\n' :: (joinLines ls).toList := (toList_joinLines hne).symm
  rw [splitLines, ← linesOf_cons, ← hsource, linesOf_source]

theorem mem_splitLines_joinLines (hne : ls ≠ []) :
    line ∈ splitLines (joinLines ls) ↔ ∃ l ∈ ls, line ∈ splitLines l := by
  rw [splitLines_joinLines hne, List.map_flatMap, List.mem_flatMap]
  rfl

theorem splitLines_of_notMem (hne : ls ≠ []) (h : ∀ l ∈ ls, '\n' ∉ l.toList) :
    splitLines (joinLines ls) = ls := by
  have hpieces : (ls.flatMap fun l => splitAt '\n' l.toList) = ls.map String.toList := by
    rw [List.flatMap_congr fun l hl => splitAt_eq_singleton (h l hl)]
    exact List.flatMap_pure_eq_map ..
  rw [splitLines_joinLines hne, hpieces, List.map_map]
  exact (List.map_congr_left fun l _ => String.ofList_toList).trans (List.map_id _)

end Lines

section Unbroken

/-- No text from scripts that a report shows has a line end in it. -/
structure Content.Unbroken (c : Content) : Prop extends c.OneLine where
  places : ∀ i ∈ c.issues, '\n' ∉ shortFileName i.file.toList

variable {ls : List String} {c : Content}

/-- Lines without line ends in them. -/
def Uncut (ls : List String) : Prop := ∀ l ∈ ls, '\n' ∉ l.toList

theorem Uncut.append {more : List String} (h : Uncut ls) (hmore : Uncut more) :
    Uncut (ls ++ more) :=
  List.forall_mem_append.mpr ⟨h, hmore⟩

theorem uncut_tame (h : ∀ l ∈ ls, Tame l.toList) : Uncut ls := fun l hl => (h l hl).oneLine

theorem uncut_blank : Uncut [""] := uncut_tame (by decide)

theorem uncut_flatMap {α : Type} {xs : List α} {f : α → List String} (h : ∀ x ∈ xs, Uncut (f x)) :
    Uncut (xs.flatMap f) := by
  intro l hl
  obtain ⟨x, hx, hl⟩ := List.mem_flatMap.mp hl
  exact h x hx l hl

theorem uncut_styled {style text : String} (hstyle : style ∈ palette) (htext : '\n' ∉ text.toList) :
    Uncut [styled style text] :=
  List.forall_mem_singleton.mpr (lineEnd_not_mem_styled hstyle htext)

theorem uncut_indented {style text : String} (hstyle : style ∈ palette)
    (htext : '\n' ∉ text.toList) : Uncut ["  " ++ styled style text] := by
  refine List.forall_mem_singleton.mpr ?_
  rw [String.toList_append]
  exact List.not_mem_append (by decide) (lineEnd_not_mem_styled hstyle htext)

theorem uncut_heading {title : String} (h : Tame title.toList) :
    Uncut [Voice.markup.heading title] :=
  uncut_styled (by decide) h.oneLine

theorem uncut_header {title : String} (h : Tame title.toList) :
    Uncut (Voice.markup.header title) := by
  have hindented : Tame ("  " ++ title).toList := tame_append.mpr ⟨by decide, h⟩
  have hframe : Uncut [styled "gold1" rule] := uncut_styled (by decide) tame_rule.oneLine
  exact (hframe.append (uncut_styled (by decide) hindented.oneLine)).append hframe

theorem uncut_issue (suggestions : Bool) {i : Issue} (h : i.Plain)
    (hplace : '\n' ∉ shortFileName i.file.toList) :
    Uncut (Voice.markup.issueLines suggestions i) := by
  have htitle : Uncut ["", "  " ++ styled (severityStyle i.severity)
      ("\\[" ++ i.severity.label ++ "] " ++ i.kind.displayName)] :=
    uncut_blank.append
      (uncut_indented (severityStyle_mem_palette _) (lineEnd_not_mem_issueTitle i))
  have hlocation : Uncut ["  Location: " ++ escapeMarkup (shortPlace i.file i.line)] := by
    refine List.forall_mem_singleton.mpr ?_
    rw [String.toList_append, toList_escapeMarkup]
    exact List.not_mem_append (by decide)
      (lineEnd_not_mem_escapeChars (lineEnd_not_mem_shortPlace hplace i.line))
  have hdescription : Uncut ["  Issue: " ++ escapeMarkup i.description] := by
    rw [escapeMarkup_eq_self h.description.quiet]
    exact uncut_tame (List.forall_mem_singleton.mpr
      (tame_append.mpr ⟨by decide, h.description⟩))
  have hfour := (htitle.append hlocation).append hdescription
  cases suggestions with
  | false => exact hfour
  | true =>
    refine hfour.append (uncut_indented (by decide) ?_)
    change '\n' ∉ ("Suggestion: " ++ escapeMarkup i.suggestion).toList
    rw [escapeMarkup_eq_self h.suggestion.quiet]
    exact (tame_append.mpr ⟨by decide, h.suggestion⟩).oneLine

theorem uncut_breakdown {input : ReportInput} (hof : c.Of input) (h : c.OneLine) :
    Uncut (Voice.markup.breakdown c.files) := by
  have hfile : ∀ listed ∈ c.files, ∀ file ∈ listed, Uncut (Voice.markup.fileLines file) := by
    intro listed hlisted file hfile
    exact (uncut_blank.append (uncut_indented (by decide)
      (lineEnd_not_mem_fileTitle (h.files listed hlisted file hfile)))).append
        (uncut_tame (hof.files listed hlisted file hfile).2)
  cases hfiles : c.files with
  | none => exact List.forall_mem_nil _
  | some listed =>
    exact ((uncut_heading (by decide)).append (uncut_flatMap (hfile listed hfiles))).append
      uncut_blank

/-- A report of which no shown text has a line end has one line for each that is written. -/
theorem uncut_write {input : ReportInput} (hof : c.Of input) (hissues : ∀ i ∈ c.issues, i.Plain)
    (h : c.Unbroken) : Uncut (Voice.markup.write c) := by
  have hslowest : Uncut (c.slowest.flatMap Voice.markup.operationLines) :=
    uncut_flatMap fun o ho => Uncut.append
      (uncut_indented (speedStyle_mem_palette _) (lineEnd_not_mem_operation (h.operations o ho)))
      (uncut_tame (hof.slowest o ho).2)
  have hfound := uncut_flatMap fun i hi => uncut_issue c.suggestions (hissues i hi) (h.places i hi)
  have hname : Tame "SKRIPT PROFILER REPORT".toList := by decide
  have hoverview : Tame "Summary:".toList := by decide
  have hslow : Tame "Top Slowest Operations:".toList := by decide
  have hadvice : Tame "General Recommendations:".toList := by decide
  have hfirst := (((uncut_header hname).append uncut_blank).append
    ((uncut_heading hoverview).append (uncut_tame hof.facts))).append uncut_blank
  have hmiddle := (hfirst.append ((uncut_heading hslow).append hslowest)).append uncut_blank
  have hlast := (hmiddle.append ((uncut_heading hof.verdict).append
    (hfound.append (uncut_tame hof.remarks)))).append uncut_blank
  exact (hlast.append (uncut_breakdown hof h.toOneLine)).append
    ((uncut_heading hadvice).append (uncut_tame hof.tips))

end Unbroken

section Torn

variable {ls : List String} {c : Content}

/-- Text in a style that is torn leaves a line that cannot be read for itself. -/
theorem exists_unread {style indent text : String} {k : Nat} (hstyle : style ∈ palette)
    (hline : indent ++ styled style text ∈ ls) (h : Torn text.toList k) (heven : k % 2 = 0) :
    ∃ line ∈ splitLines (joinLines ls), ∀ plain, stripMarkup line ≠ .ok plain := by
  obtain ⟨line, hmem, e, he⟩ := h.exists_error heven (isStyle_of_mem_palette style hstyle)
    (lineEnd_not_mem_palette style hstyle) (indent.toList ++ '[' :: (style.toList ++ [']']))
  refine ⟨String.ofList line, ?_, fun plain hplain => ?_⟩
  · rw [splitLines_joinLines (List.ne_nil_of_mem hline)]
    refine List.mem_map_of_mem (List.mem_flatMap.mpr ⟨_, hline, ?_⟩)
    rw [toList_styled]
    simpa using hmem
  · obtain ⟨⟨left, hleft⟩, -⟩ := stripMarkup_eq_ok_iff.mp hplain
    rw [String.toList_ofList, he] at hleft
    cases hleft

/-- The tag behind the name is the one that closes the style of an operation: the place completes
no tag with the name, and the backslashes at the end of the name escape nothing. -/
structure Listed.Closed (o : Listed) : Prop where
  separate : Separate (shortPlace o.rated.record.key.file o.rated.record.key.line)
    o.rated.record.name
  even : endSlashes (trailing o.rated.record.name.toList) % 2 = 0

theorem torn_operation {o : Listed} (h : ¬ o.OneLine) (hclosed : o.Closed) :
    Torn (Voice.markup.operation o).toList (endSlashes (trailing o.rated.record.name.toList)) := by
  have hback := backslash_not_mem_shortPlace o.rated.record.key.file o.rated.record.key.line
  rw [toList_operation]
  by_cases hname : '\n' ∈ o.rated.record.name.toList
  · exact (((torn_escaped hname).append _).append _).append _
  · have hplace : '\n' ∈ (shortPlace o.rated.record.key.file o.rated.record.key.line).toList := by
      by_contra hnone
      refine h ⟨hname, fun hmem => hnone ?_⟩
      rw [toList_shortPlace]
      exact List.mem_append_left _ hmem
    have hdash : Quiet " - ".toList := by decide
    obtain ⟨y, hy, hlast⟩ := exists_trailing o.rated.record.name.toList
    have hinside := (inside_escaped hlast (trailing o.rated.record.name.toList)).flat_append
      hdash.flat
    rw [← hy] at hinside
    refine (torn_escaped_append hinside ?_ hplace (getLast?_ne_backslash hback) ?_).append _
    · exact List.not_mem_append (by decide) (lineEnd_not_mem_escapeChars hname)
    · intro hunfinished
      rw [closes_quiet_append hdash, closes_escapeChars]
      exact hclosed.separate hunfinished

theorem torn_file {file : String} (h : '\n' ∈ shortFileName file.toList) :
    Torn (fileTitle file).toList 0 := by
  have hback := backslash_not_mem_shortFileName file.toList
  have hcolon : Quiet ":".toList := by decide
  have hinside := inside_nil.flat_append hcolon.flat
  rw [List.append_nil] at hinside
  rw [fileTitle, String.toList_append, toList_escapeMarkup, String.toList_ofList]
  exact torn_escaped_append hinside (by decide) h (getLast?_ne_backslash hback) fun _ => by decide

theorem operation_mem_write {o : Listed} (ho : o ∈ c.slowest) :
    "  " ++ styled (speedStyle o.rated.average) (Voice.markup.operation o) ∈
      Voice.markup.write c := by
  have hblock : "  " ++ styled (speedStyle o.rated.average) (Voice.markup.operation o) ∈
      c.slowest.flatMap Voice.markup.operationLines :=
    List.mem_flatMap.mpr ⟨o, ho, List.mem_cons_self⟩
  unfold Voice.write
  simp only [List.mem_append, List.mem_cons, hblock, true_or, or_true]

/-- What stands between two line ends of a name is a line of the report. -/
theorem line_of_name {o : Listed} (ho : o ∈ c.slowest) (hquiet : Quiet o.rated.record.name.toList)
    {line : String} (hline : '\n' ∉ line.toList)
    (hname : '\n' :: (line.toList ++ ['\n']) <:+: o.rated.record.name.toList) :
    line ∈ splitLines (joinLines (Voice.markup.write c)) := by
  have hwritten := operation_mem_write ho
  have hescaped : escapeChars o.rated.record.name.toList = o.rated.record.name.toList := by
    rw [← toList_escapeMarkup, escapeMarkup_eq_self hquiet]
  have hoperation : o.rated.record.name.toList <:+: (Voice.markup.operation o).toList := by
    rw [toList_operation, hescaped]
    exact ((List.suffix_append ..).trans ((List.suffix_append ..).trans
      (List.suffix_append ..))).isInfix
  have hstyled : (Voice.markup.operation o).toList <:+:
      ("  " ++ styled (speedStyle o.rated.average) (Voice.markup.operation o)).toList :=
    ⟨("  [" ++ speedStyle o.rated.average ++ "]").toList,
      ("[/" ++ speedStyle o.rated.average ++ "]").toList, by simp [styled]⟩
  have hpiece := mem_splitAt_of_isInfix hline (hname.trans (hoperation.trans hstyled))
  exact (mem_splitLines_joinLines (List.ne_nil_of_mem hwritten)).mpr
    ⟨_, hwritten, List.mem_map.mpr ⟨line.toList, hpiece, String.ofList_toList⟩⟩

theorem file_mem_write {listed : List (String × List String)} (hlisted : c.files = some listed)
    {file : String × List String} (hfile : file ∈ listed) :
    "  " ++ styled "yellow" (fileTitle file.1) ∈ Voice.markup.write c := by
  have hblock : "  " ++ styled "yellow" (fileTitle file.1) ∈
      listed.flatMap Voice.markup.fileLines :=
    List.mem_flatMap.mpr ⟨file, hfile, List.mem_cons_of_mem _ List.mem_cons_self⟩
  unfold Voice.write
  simp only [hlisted, Voice.breakdown, List.mem_append, List.mem_cons, hblock, true_or, or_true]

/-- Where each operation's style is closed behind its name, a report of which every line can be
read for itself has no line end in a style. -/
theorem oneLine_of_read (hclosed : ∀ o ∈ c.slowest, o.Closed)
    (hread : ∀ line ∈ splitLines (joinLines (Voice.markup.write c)),
      ∃ plain, stripMarkup line = .ok plain) : c.OneLine := by
  have hall : ¬ ∃ line ∈ splitLines (joinLines (Voice.markup.write c)),
      ∀ plain, stripMarkup line ≠ .ok plain := by
    rintro ⟨line, hline, hnot⟩
    obtain ⟨plain, hplain⟩ := hread line hline
    exact hnot plain hplain
  constructor
  · intro o ho
    by_contra hnot
    exact hall (exists_unread (speedStyle_mem_palette _) (operation_mem_write ho)
      (torn_operation hnot (hclosed o ho)) (hclosed o ho).even)
  · intro listed hlisted file hfile hmem
    have hyellow : "yellow" ∈ palette := by decide
    exact hall (exists_unread hyellow (file_mem_write hlisted hfile) (torn_file hmem) rfl)

end Torn

end Report

end ScriptProfiling
