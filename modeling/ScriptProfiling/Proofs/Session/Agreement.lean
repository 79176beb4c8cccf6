import ScriptProfiling.Proofs.Report.Data
import ScriptProfiling.Proofs.Report.Marks
import ScriptProfiling.Proofs.Session.Console

/-!
# Both reports agree

The text report and the structured one are written apart from each other, each from a detection
pass of its own. The text lists the first issues of the structured report and counts the others,
and its totals are those of the structured records and scripts.

This is so of the lines that the text is joined from. They are the lines of the text itself where
no name or place that it shows has a line end in it. Line ends are not escaped, so that a name may
bring along a line that tells of issues where there are none.
-/
namespace ScriptProfiling

namespace Report

/-- Lines that tell a structured issue: its kind and severity, its place, its description and, if
wanted, its suggestion, the last two word for word. -/
def Tells (suggestions : Bool) (entry : Json) (block : List String) : Prop :=
  ∃ (kind : IssueKind) (severity : Severity) (file : String) (line : Int)
    (description suggestion : String),
    entry.field? "kind" = some (.text kind.name) ∧
    entry.field? "severity" = some (.text severity.name) ∧
    entry.field? "file" = some (.text file) ∧
    entry.field? "line" = some (.int line) ∧
    entry.field? "description" = some (.text description) ∧
    entry.field? "suggestion" = some (.text suggestion) ∧
    block =
      ["",
       "  " ++ styled (severityStyle severity)
         ("\\[" ++ severity.label ++ "] " ++ kind.displayName),
       "  Location: " ++ escapeMarkup (shortPlace file line),
       "  Issue: " ++ description] ++
      if suggestions then ["  " ++ styled "green" ("Suggestion: " ++ suggestion)] else []

/-- What the lines of a text report and the lists of a structured one have in common. -/
structure Agree (suggestions : Bool) (limit : Nat) (ls : List String)
    (issues records scripts : List Json) : Prop where
  /-- The first issues are told one behind the other; the place of an issue stands nowhere else. -/
  shown : ∃ before blocks after, ls = before ++ blocks.flatten ++ after ∧
    List.Forall₂ (Tells suggestions) (issues.take limit) blocks ∧
    blocks.length = min issues.length limit ∧
    marked 'L' before = [] ∧ marked 'L' after = []
  /-- A line tells how many issues are left out, and there is none if all are told. -/
  hidden : marked '.' ls =
    if limit < issues.length then [hiddenLine limit issues.length] else []
  severity : ∀ told ∈ issues.take limit, ∀ left ∈ issues.drop limit, ∃ a b : Severity,
    told.field? "severity" = some (.text a.name) ∧
    left.field? "severity" = some (.text b.name) ∧ b.rank ≤ a.rank
  tips : ∀ tip ∈ kindTips, "  • " ++ tip.2 ∈ ls ↔
    ∃ entry ∈ issues, entry.field? "kind" = some (.text tip.1.name)
  totals : ∃ (counts : List Int) (time : String),
    records.map (Json.field? "count") = counts.map (fun n => some (.int n)) ∧
    marked 'T' ls = ["  Total Events/Functions Tracked: " ++ wholeText records.length,
      "  Total Executions: " ++ wholeText counts.sum, "  Total Execution Time: " ++ time ++ "ms"]
  scripts : marked 'S' ls = ["  Scripts Analyzed: " ++ wholeText scripts.length]

section Parts

variable {t : Thresholds} {default : Number} {input : ReportInput} {detailed : Bool}
  {limit : Nat}

theorem listedIssues_eq_ok (hlimit : t.maxIssues.whole? = some (limit : Int))
    {issues listed : List Issue} (h : listedIssues t issues = .ok listed) :
    listed = issues.take limit := by
  unfold listedIssues at h
  split at h
  · next hempty =>
    obtain rfl := Except.ok.inj h
    rw [List.isEmpty_iff.mp hempty, List.take_nil]
  · obtain ⟨first, hfirst, h⟩ := bind_eq_ok.mp h
    obtain rfl := issues_of_placed h
    rw [firstOf, hlimit] at hfirst
    exact (Except.ok.inj hfirst).symm

theorem tells_issueLines (suggestions : Bool) {i : Issue} (h : i.Plain) :
    Tells suggestions (issueJson i) (Voice.markup.issueLines suggestions i) := by
  refine ⟨i.kind, i.severity, i.file, i.line, i.description, i.suggestion, rfl, rfl, rfl, rfl, rfl,
    rfl, ?_⟩
  have hdescription : escapeMarkup i.description = i.description :=
    escapeMarkup_eq_self h.description.quiet
  have hsuggestion : escapeMarkup i.suggestion = i.suggestion :=
    escapeMarkup_eq_self h.suggestion.quiet
  simp only [Voice.issueLines, Voice.findingLines, Voice.markup, hdescription, hsuggestion]
  rfl

theorem forall₂_tells (suggestions : Bool) {issues : List Issue} (h : ∀ i ∈ issues, i.Plain) :
    List.Forall₂ (Tells suggestions) (issues.map issueJson)
      (issues.map (Voice.markup.issueLines suggestions)) := by
  rw [List.forall₂_map_left_iff, List.forall₂_map_right_iff, List.forall₂_same]
  exact fun i hi => tells_issueLines suggestions (h i hi)

/-- Tips differ, so each of them stands for its kind. -/
theorem mem_tips {tip : IssueKind × String} (htip : tip ∈ kindTips) (issues : List Issue) :
    "  • " ++ tip.2 ∈ (recommendations issues).tail ↔ ∃ i ∈ issues, i.kind = tip.1 := by
  have hgeneral : ∀ tip ∈ kindTips, tip.2 ∉ generalTips := by decide +kernel
  have hdiffer : ∀ tip ∈ kindTips, ∀ other ∈ kindTips, other.2 = tip.2 → other = tip := by
    decide +kernel
  have hinjective : Function.Injective ("  • " ++ ·) := by
    intro x y h
    simpa [← String.toList_inj, String.toList_append] using h
  have hany : tip.2 ∈ (kindTips.filter fun tip => issues.any (·.kind == tip.1)).map (·.2) ↔
      issues.any (·.kind == tip.1) = true := by
    constructor
    · intro h
      obtain ⟨other, hother, heq⟩ := List.mem_map.mp h
      obtain ⟨hmem, hfound⟩ := List.mem_filter.mp hother
      rwa [hdiffer tip htip other hmem heq] at hfound
    · intro h
      exact List.mem_map_of_mem (List.mem_filter.mpr ⟨htip, h⟩)
  rw [recommendations, List.tail_cons, List.mem_map_of_injective hinjective, List.mem_append,
    or_iff_left (hgeneral tip htip), hany]
  simp

theorem exists_severities {issues : List Issue} (h : Falling issues) (limit : Nat) :
    ∀ told ∈ (issues.map issueJson).take limit, ∀ left ∈ (issues.map issueJson).drop limit,
      ∃ a b : Severity, told.field? "severity" = some (.text a.name) ∧
        left.field? "severity" = some (.text b.name) ∧ b.rank ≤ a.rank := by
  have hparts : Falling (issues.take limit ++ issues.drop limit) := by
    rwa [List.take_append_drop]
  obtain ⟨-, -, hcross⟩ := List.pairwise_append.mp hparts
  rw [← List.map_take, ← List.map_drop]
  intro told htold left hleft
  obtain ⟨i, hi, rfl⟩ := List.mem_map.mp htold
  obtain ⟨j, hj, rfl⟩ := List.mem_map.mp hleft
  exact ⟨i.severity, j.severity, rfl, rfl, hcross i hi j hj⟩

theorem mem_kinds (kind : IssueKind) : kind ∈ IssueKind.all := by
  cases kind <;> decide

theorem name_injective {a b : IssueKind} (h : a.name = b.name) : a = b := by
  have hall : ∀ a ∈ IssueKind.all, ∀ b ∈ IssueKind.all, a.name = b.name → a = b := by decide
  exact hall a (mem_kinds a) b (mem_kinds b) h

theorem exists_issueJson {issues : List Issue} {kind : IssueKind} :
    (∃ i ∈ issues, i.kind = kind) ↔
      ∃ entry ∈ issues.map issueJson, entry.field? "kind" = some (.text kind.name) := by
  constructor
  · rintro ⟨i, hi, rfl⟩
    exact ⟨issueJson i, List.mem_map_of_mem hi, rfl⟩
  · rintro ⟨_, hentry, hkind⟩
    obtain ⟨i, hi, rfl⟩ := List.mem_map.mp hentry
    exact ⟨i, hi, name_injective (Json.text.inj (Option.some.inj hkind))⟩

theorem agree {c : Content} {records : List Json}
    (hlimit : t.maxIssues.whole? = some (limit : Int)) (hfalling : Falling input.issues)
    (hplain : ∀ i ∈ input.issues, i.Plain) (hc : content t default input detailed = .ok c)
    (hrecords : input.metrics.values.mapM recordJson = .ok records) :
    Agree t.suggestions.truthy limit (Voice.markup.write c) (input.issues.map issueJson) records
      (input.scripts.values.map scriptJson) := by
  have htold := told_content hc
  obtain ⟨load, hsummary⟩ := htold.facts
  obtain ⟨time, hfacts⟩ := marked_facts hsummary
  have hissues : c.issues = input.issues.take limit := listedIssues_eq_ok hlimit htold.issues
  have hmarked : ∀ sign ∈ signs, marked sign (Voice.markup.write c) = _ :=
    fun sign hsign => marked_write hsign hlimit htold
  have hsize : input.scripts.size = (input.scripts.values.map scriptJson).length := by
    rw [List.length_map, Catalog.values, List.length_map, Catalog.size]
  constructor
  case shown =>
    refine ⟨Voice.markup.opening c,
      (input.issues.take limit).map (Voice.markup.issueLines t.suggestions.truthy),
      Voice.markup.closing c, ?_, ?_, ?_, ?_, ?_⟩
    · rw [write_eq, hissues, htold.suggestions, List.flatMap_def]
    · rw [← List.map_take]
      exact forall₂_tells _ fun i hi => hplain i (List.mem_of_mem_take hi)
    · rw [List.length_map, List.length_map, List.length_take, Nat.min_comm]
    · rw [marked_opening (by decide) htold, hfacts 'L' (by decide)]
      rfl
    · rw [marked_closing (by decide) hlimit htold]
      simp
  case hidden =>
    rw [hmarked '.' (by decide), hfacts '.' (by decide), List.length_map]
    simp
  case severity => exact exists_severities hfalling limit
  case tips =>
    intro tip htip
    have htips : marked '•' (Voice.markup.write c) = c.tips := by
      rw [hmarked '•' (by decide), hfacts '•' (by decide)]
      simp
    have hmem : "  • " ++ tip.2 ∈ Voice.markup.write c ↔ "  • " ++ tip.2 ∈ c.tips := by
      rw [← htips, mem_marked, and_iff_left (mark_tip tip.2)]
    rw [hmem, htold.tips, mem_tips htip, exists_issueJson]
  case totals =>
    refine ⟨input.metrics.values.map Record.count, time, ?_, ?_⟩
    · rw [List.map_map]
      exact map_of_mapM (fun r _ entry hentry => (recordEntry hentry).count) hrecords
    · rw [hmarked 'T' (by decide), hfacts 'T' (by decide), length_of_mapM hrecords]
      rfl
  case scripts =>
    rw [hmarked 'S' (by decide), hfacts 'S' (by decide), hsize]
    rfl

end Parts

end Report

namespace Session

variable {s : Session} {now later : Binary64} {detailed : Bool} {text : String} {data : Json}
  {limit : Nat}

theorem unbroken_of_detect {issues : List Issue} {c : Report.Content}
    (h : detect s.aggregator.snapshot s.scripts s.thresholds s.watchedLoad = .ok issues)
    (hof : c.Of (s.reportInput issues now))
    (hrecords : ∀ r ∈ s.aggregator.snapshot.values,
      '\n' ∉ r.name.toList ∧ '\n' ∉ shortFileName r.key.file.toList)
    (hscripts : ∀ info ∈ s.scripts.values, '\n' ∉ shortFileName info.path.toList) :
    c.Unbroken := by
  refine ⟨⟨fun o ho => ?_, fun listed hlisted file hfile => ?_⟩, fun i hi => ?_⟩
  · obtain ⟨hname, hfile⟩ := hrecords _ (hof.slowest o ho).1
    exact ⟨hname, hfile⟩
  · obtain ⟨r, hr, hname⟩ := Report.mem_filesOf.mp (hof.files listed hlisted file hfile).1
    rw [← hname]
    exact (hrecords r hr).2
  · rcases file_detect h (hof.issues i hi) with ⟨r, hr, hfile⟩ | ⟨info, hinfo, hfile⟩
    · rw [hfile]
      exact (hrecords r hr).2
    · rw [hfile]
      exact hscripts info hinfo

/-- Where both reports of a session with records are given, they agree, whenever each is asked
for. The lines that agree are the lines of the text if no name or place that it shows has a line
end in it, as is the case if none of the records and the scripts has. -/
theorem reports_agree (hrecords : s.aggregator.snapshot.isEmpty = false)
    (hlimit : s.thresholds.maxIssues.whole? = some (limit : Int))
    (htext : (s.report now detailed).result = .ok text)
    (hdata : (s.reportData later).result = .ok data) :
    ∃ c issues records scripts, s.Reports now detailed c ∧
      text = joinLines (Report.Voice.markup.write c) ∧
      data.field? "issues" = some (.list issues) ∧
      data.field? "records" = some (.list records) ∧
      data.field? "scripts" = some (.list scripts) ∧
      Report.Agree s.thresholds.suggestions.truthy limit (Report.Voice.markup.write c) issues
        records scripts ∧
      (c.Unbroken → Report.Agree s.thresholds.suggestions.truthy limit (splitLines text) issues
        records scripts) ∧
      ((∀ r ∈ s.aggregator.snapshot.values,
          '\n' ∉ r.name.toList ∧ '\n' ∉ shortFileName r.key.file.toList) →
        (∀ info ∈ s.scripts.values, '\n' ∉ shortFileName info.path.toList) → c.Unbroken) := by
  rcases report_cases htext with ⟨hempty, -⟩ | ⟨issues, c, hissues, hreports, hof, rfl⟩
  · rw [hrecords] at hempty
    cases hempty
  · have hcontent := hreports.content
    rw [hissues] at hcontent
    obtain ⟨issues', hissues', hdata⟩ := bind_eq_ok.mp hdata
    obtain rfl := Except.ok.inj (hissues.symm.trans hissues')
    obtain ⟨records, hmapped, hfields⟩ := Report.data_eq_ok hdata
    have hdetect := detect_of_analyze hissues
    have hfalling : Falling (s.reportInput issues now).issues := by
      obtain ⟨evaluation, -, rfl⟩ := detect_eq_ok hdetect
      exact Detection.falling_bySeverity evaluation
    have hplain := plain_detect hdetect
    have hagree := Report.agree hlimit hfalling hplain hcontent hmapped
    have hne : Report.Voice.markup.write c ≠ [] := by simp [Report.Voice.write, Report.Voice.header]
    refine ⟨c, _, records, _, hreports, rfl, hfields.1, hfields.2.1, hfields.2.2, hagree,
      fun hunbroken => ?_, fun hnames hpaths => ?_⟩
    · have huncut := Report.uncut_write hof (fun i hi => hplain i (hof.issues i hi)) hunbroken
      rw [Report.splitLines_of_notMem hne huncut]
      exact hagree
    · exact unbroken_of_detect hdetect hof hnames hpaths

/-- A session that can be reported on gives both reports, and the data has the issues that an
analysis finds. -/
theorem exists_reports {settings : Settings} {thresholds : Thresholds} {s : Session}
    (hsupplied : Supplied settings thresholds s)
    (hcounted : Metrics.Counted s.aggregator.snapshot)
    (hissues : thresholds.maxIssues.whole?.isSome) (hslowest : thresholds.topSlowest.whole?.isSome)
    (hreportable : s.Reportable) {found : List Issue} (hfound : s.analyze.result = .ok found)
    (now : Binary64) (detailed : Bool) :
    ∃ text data, (s.report now detailed).result = .ok text ∧
      (s.reportData now).result = .ok data ∧
      data.field? "issues" = some (.list (found.map Report.issueJson)) := by
  obtain ⟨-, hreport, hdata⟩ := (isOk_reports hsupplied hcounted hissues hslowest).mpr hreportable
  obtain ⟨text, htext⟩ := isOk_iff.mp (hreport now detailed)
  obtain ⟨data, hdata⟩ := isOk_iff.mp (hdata now)
  obtain ⟨issues, hanalyze, hwritten⟩ := bind_eq_ok.mp hdata
  obtain rfl := Except.ok.inj (hfound.symm.trans hanalyze)
  obtain ⟨-, -, hfield, -⟩ := Report.data_eq_ok hwritten
  exact ⟨text, data, htext, hdata, hfield⟩

/-- A session that shows one issue at most. -/
def terseSession : Session :=
  let thresholds := { Thresholds.default with maxIssues := .int 1 }
  { shortSession with
    settings := { shortSession.settings with thresholds := .thresholds thresholds }
    thresholds := thresholds }

/-- Of a slow event, a bad load and a long wait the last two are left out. The tips are given for
all three. -/
theorem reports_agree_terseSession :
    let s := terseSession.run (longDay 1 300000000)
    ∃ text data issues, (s.report (.zero false) true).result = .ok text ∧
      (s.reportData (.zero false)).result = .ok data ∧
      data.field? "issues" = some (.list issues) ∧ issues.length = 3 ∧
      Report.marked '.' (splitLines text) = ["  ... and 2 more issue(s)"] ∧
      ∀ tip ∈ Report.kindTips,
        "  • " ++ tip.2 ∈ splitLines text ↔ tip.1 ∈ [.slowEvent, .longWait, .loadImpact] := by
  intro s
  have hcreate : create terseSession.settings terseSession.monitor.sampler = .ok terseSession := rfl
  have hsupplied := (Supplied.create hcreate).run (longDay 1 300000000)
  have hcounted := ((Follows.create hcreate).run (longDay 1 300000000)).counted
  obtain ⟨found, hfound, hlines⟩ :=
    exists_analyze s (P := fun i => WithinDigits i.line) (by decide +kernel)
  have hreportable : s.Reportable := hsupplied.reportable rfl (by decide +kernel)
    (by decide +kernel) (by decide +kernel) hfound hlines
  obtain ⟨text, data, htext, hdata, hfield⟩ :=
    exists_reports hsupplied hcounted rfl rfl hreportable hfound (.zero false) true
  have hempty : s.aggregator.snapshot.isEmpty = false := by decide +kernel
  have hlimit : s.thresholds.maxIssues.whole? = some ((1 : Nat) : Int) := by
    rw [hsupplied.limits]
    rfl
  obtain ⟨c, issues, records, scripts, -, -, hissues, -, -, -, hagree, hunbroken⟩ :=
    reports_agree hempty hlimit htext hdata
  have hagree := hagree (hunbroken (by decide +kernel) (by decide +kernel))
  have hkinds : ((Detection.found s.aggregator.snapshot s.scripts s.thresholds
      s.watchedLoad).toOption.map fun evaluation => evaluation.map Issue.kind) =
        some [.slowEvent, .longWait, .loadImpact] := by decide +kernel
  obtain ⟨evaluation, hevaluation, hkinds⟩ := Option.map_eq_some_iff.mp hkinds
  have hperm : found.Perm evaluation := by
    obtain ⟨evaluation', hevaluation', rfl⟩ := detect_eq_ok (detect_of_analyze hfound)
    obtain rfl := Except.ok.inj ((toOption_eq_some.mp hevaluation).symm.trans hevaluation')
    exact Detection.bySeverity_perm evaluation
  obtain rfl : issues = found.map Report.issueJson :=
    Json.list.inj (Option.some.inj (hissues.symm.trans hfield))
  have hlength : (found.map Report.issueJson).length = 3 := by
    rw [List.length_map, hperm.length_eq, ← List.length_map Issue.kind, hkinds]
    rfl
  have htold : ∀ kind, (∃ entry ∈ found.map Report.issueJson,
      entry.field? "kind" = some (.text (IssueKind.name kind))) ↔
        kind ∈ [IssueKind.slowEvent, .longWait, .loadImpact] := by
    intro kind
    rw [← Report.exists_issueJson, ← hkinds, ← (hperm.map Issue.kind).mem_iff, List.mem_map]
  refine ⟨text, data, _, htext, hdata, hissues, hlength, ?_, fun tip htip =>
    (hagree.tips tip htip).trans (htold tip.1)⟩
  rw [hagree.hidden, hlength]
  rfl

/-- A session without a sampler. -/
def silentSession : Session :=
  { shortSession with monitor := { shortSession.monitor with sampler := none } }

/-- The name of the element that is executed has a line of its own. -/
def tornDay : List Step :=
  [.start ⟨[], none, [], 0⟩ (.zero false),
    .record (.span ⟨"shop.sk", 1, "event"⟩ (.int 5000000)
      "on join\n  ... and 3 more issue(s)\n")]

/-- There are no issues, and the text has a line that tells of three more. -/
theorem reports_disagree_tornDay :
    let s := silentSession.run tornDay
    create silentSession.settings silentSession.monitor.sampler = .ok silentSession ∧
    s.thresholds.maxIssues.whole? = some 10 ∧
    ∃ text data, (s.report (.zero false) false).result = .ok text ∧
      (s.reportData (.zero false)).result = .ok data ∧
      data.field? "issues" = some (.list []) ∧
      "  ... and 3 more issue(s)" ∈ splitLines text := by
  intro s
  have hcreate : create silentSession.settings silentSession.monitor.sampler = .ok silentSession :=
    rfl
  have hlimit : s.thresholds.maxIssues.whole? = some 10 := by decide +kernel
  have hcounted := ((Follows.create hcreate).run tornDay).counted
  have hsupplied := (Supplied.create hcreate).run tornDay
  obtain ⟨found, hfound, hnone⟩ := exists_analyze s (P := fun _ => False) (by decide +kernel)
  obtain rfl : found = [] := List.eq_nil_iff_forall_not_mem.mpr hnone
  have hreportable : s.Reportable := hsupplied.reportable rfl (by decide +kernel)
    (by decide +kernel) (by decide +kernel) hfound (List.forall_mem_nil _)
  obtain ⟨text, data, htext, hdata, hissues⟩ :=
    exists_reports hsupplied hcounted rfl rfl hreportable hfound (.zero false) false
  refine ⟨hcreate, hlimit, text, data, htext, hdata, hissues, ?_⟩
  have hempty : s.aggregator.snapshot.isEmpty = false := by decide +kernel
  have htop : s.thresholds.topSlowest.whole? = some 10 := by decide +kernel
  have hcount : (s.aggregator.snapshot.values.length : Int) ≤ 10 := by decide +kernel
  have hname : ∃ r ∈ s.aggregator.snapshot.values, Quiet r.name.toList ∧
      '\n' :: ("  ... and 3 more issue(s)".toList ++ ['\n']) <:+: r.name.toList := by
    decide +kernel
  rcases report_cases htext with ⟨hnothing, -⟩ | ⟨issues, c, -, hc, -, rfl⟩
  · rw [hempty] at hnothing
    cases hnothing
  · obtain ⟨r, hr, hquiet, hbetween⟩ := hname
    obtain ⟨o, ho, rfl⟩ := List.mem_map.mp ((hc.operations_perm htop hcount).mem_iff.mpr hr)
    exact Report.line_of_name ho hquiet (by decide) hbetween

end Session
end ScriptProfiling
