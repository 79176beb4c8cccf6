import ScriptProfiling.Proofs.Detection.Completeness
import ScriptProfiling.Proofs.Report.Linewise
import ScriptProfiling.Proofs.Session.Reporting

/-!
# Reports in the log

The report that a command writes to the log is read line by line, while everyone else reads
reports as a whole. Both ways come to the same text if nothing that stands in a style has a
line end in it; otherwise the command fails, although there is a report to read.
-/
namespace ScriptProfiling

namespace Session

variable {s : Session} {now : Binary64} {detailed : Bool} {text : String}

/-- What the report of a session says if there is something to report on. -/
structure Reports (s : Session) (now : Binary64) (detailed : Bool) (c : Report.Content) : Prop where
  records : s.aggregator.snapshot.isEmpty = false
  content : (s.analyze.result >>= fun issues =>
    Report.content s.thresholds s.settings.defaultLoad (s.reportInput issues now) detailed) = .ok c

theorem report_cases (h : (s.report now detailed).result = .ok text) :
    (s.aggregator.snapshot.isEmpty = true ∧ text = noDataMessage) ∨
    ∃ issues c, s.analyze.result = .ok issues ∧ s.Reports now detailed c ∧
      c.Of (s.reportInput issues now) ∧ text = joinLines (Report.Voice.markup.write c) := by
  unfold report at h
  split at h
  · next hempty => exact Or.inl ⟨hempty, (Except.ok.inj h).symm⟩
  · next hrecords =>
    obtain ⟨issues, hissues, hrender⟩ := bind_eq_ok.mp h
    have hmetrics : (s.reportInput issues now).metrics.isEmpty = false :=
      Bool.eq_false_iff.mpr hrecords
    obtain ⟨c, hcontent, rfl⟩ := Report.exists_content hrender hmetrics
    have hreports : s.Reports now detailed c :=
      ⟨hmetrics, bind_eq_ok.mpr ⟨issues, hissues, hcontent⟩⟩
    exact Or.inr ⟨issues, c, hissues, hreports, Report.content_of hcontent, rfl⟩

theorem Reports.of {c : Report.Content} (h : s.Reports now detailed c) :
    ∃ issues, c.Of (s.reportInput issues now) := by
  obtain ⟨issues, -, hcontent⟩ := bind_eq_ok.mp h.content
  exact ⟨issues, Report.content_of hcontent⟩

theorem Reports.operations_perm {c : Report.Content} (h : s.Reports now detailed c) {n : Int}
    (hn : s.thresholds.topSlowest.whole? = some n)
    (hlength : (s.aggregator.snapshot.values.length : Int) ≤ n) :
    (c.slowest.map fun o => o.rated.record).Perm s.aggregator.snapshot.values := by
  obtain ⟨issues, -, hcontent⟩ := bind_eq_ok.mp h.content
  exact Report.operations_perm (Report.told_content hcontent).slowest hn hlength

theorem linewise_report (h : (s.report now detailed).result = .ok text)
    (honeLine : ∀ c, s.Reports now detailed c → c.OneLine) :
    Linewise ('\n' :: text.toList) := by
  rcases report_cases h with ⟨-, rfl⟩ | ⟨issues, c, hissues, hreports, hof, rfl⟩
  · have hquiet : Quiet noDataMessage.toList := by decide
    exact linewise_flat hquiet.flat
  · have hplain : ∀ i ∈ c.issues, i.Plain := fun i hi =>
      plain_detect (detect_of_analyze hissues) i (hof.issues i hi)
    have hne : Report.Voice.markup.write c ≠ [] := by simp [Report.Voice.write, Report.Voice.header]
    rw [Report.toList_joinLines hne]
    exact (Report.lineBlock_write hof hplain (honeLine c hreports)).linewise

/-- Without brackets in file names a report can be read. -/
theorem readable_report (h : (s.report now detailed).result = .ok text)
    (hrecords : ∀ r ∈ s.aggregator.snapshot.values, '[' ∉ r.key.file.toList)
    (hscripts : ∀ info ∈ s.scripts.values, '[' ∉ info.path.toList) :
    ∃ plain, stripMarkup text = .ok plain := by
  have hsound : ∃ ls, ls ≠ [] ∧ Report.Sound False ls ∧ joinLines ls = text := by
    unfold report at h
    split at h
    · obtain rfl := Except.ok.inj h
      exact ⟨[noDataMessage], List.cons_ne_nil _ _, Report.sound_quiet (by decide),
        String.intercalate_singleton⟩
    · obtain ⟨issues, hissues, hrender⟩ := bind_eq_ok.mp h
      refine Report.exists_sound_render hrender hrecords fun i hi => ?_
      rcases file_detect (detect_of_analyze hissues) hi with ⟨r, hr, hfile⟩ | ⟨info, hinfo, hfile⟩
      · rw [hfile]
        exact hrecords r hr
      · rw [hfile]
        exact hscripts info hinfo
  obtain ⟨ls, hne, hsound, rfl⟩ := hsound
  cases hread : stripMarkup (joinLines ls) with
  | ok plain => exact ⟨plain, rfl⟩
  | error f => exact (hsound.stripMarkup_error hne hread).2.elim

end Session

namespace Commands

variable {lines plain : List String}

/-- What has been logged when a line turns up that cannot be read is the plain text of the lines
before it; the lines behind it are not looked at. -/
theorem logLines_eq_none_iff :
    (logLines lines).2 = none ↔ ∀ line ∈ lines, ∃ plain, stripMarkup line = .ok plain := by
  induction lines with
  | nil => exact ⟨fun _ => nofun, fun _ => rfl⟩
  | cons line lines ih =>
    rw [logLines, List.forall_mem_cons]
    cases hline : stripMarkup line with
    | error f => exact ⟨nofun, fun h => by obtain ⟨⟨plain, hplain⟩, -⟩ := h; cases hplain⟩
    | ok text => exact ih.trans ⟨fun h => ⟨⟨text, rfl⟩, h⟩, fun h => h.2⟩

theorem logLines_of_mapM (h : lines.mapM stripMarkup = .ok plain) :
    (logLines lines).1 = plain.map logLine := by
  induction lines generalizing plain with
  | nil =>
    obtain rfl := pure_eq_ok.mp h
    rfl
  | cons line lines ih =>
    rw [List.mapM_cons] at h
    obtain ⟨text, htext, h⟩ := bind_eq_ok.mp h
    obtain ⟨rest, hrest, h⟩ := bind_eq_ok.mp h
    obtain rfl := pure_eq_ok.mp h
    rw [logLines, htext]
    exact congrArg (logLine text :: ·) (ih hrest)

variable {s : Session} {now : Binary64} {detailed : Bool} {text : String}

section Report

variable (hformat : s.settings.reportFormat.logged = true)
  (h : (s.report now detailed).result = .ok text)

include hformat h

theorem isOk_report_iff : (report s now detailed).result.isOk = true ↔
    ∀ line ∈ splitLines text, ∃ plain, stripMarkup line = .ok plain := by
  rw [← logLines_eq_none_iff]
  unfold report
  simp only [h, hformat, if_true]
  cases (logLines (splitLines text)).2 with
  | none => simp [Except.isOk, Except.toBool]
  | some f => simp [Except.isOk, Except.toBool]

theorem log_report : (report s now detailed).log =
    (s.report now detailed).log ++
      logLine "=== Performance Report ===" :: (logLines (splitLines text)).1 := by
  unfold report
  simp only [h, hformat, if_true]

end Report

/-- The report command writes to the log what the report reads as, line by line, unless a name
or a short file name that stands in a style has a line end in it; and the report can be read
unless a file name has a bracket. A line end in a style makes the command fail: where each
operation's style is closed behind its name, a command that succeeds has had none. -/
theorem report_logged (hformat : s.settings.reportFormat.logged = true)
    (h : (s.report now detailed).result = .ok text) :
    ((∀ c, s.Reports now detailed c → c.OneLine) →
      ((report s now detailed).result.isOk = true ↔ ∃ plain, stripMarkup text = .ok plain) ∧
      ∀ plain, stripMarkup text = .ok plain → (report s now detailed).log =
        (s.report now detailed).log ++
          logLine "=== Performance Report ===" :: (splitLines plain).map logLine) ∧
    ((∀ r ∈ s.aggregator.snapshot.values, '[' ∉ r.key.file.toList) →
      (∀ info ∈ s.scripts.values, '[' ∉ info.path.toList) →
      ∃ plain, stripMarkup text = .ok plain) ∧
    ((report s now detailed).result.isOk = true → ∀ c, s.Reports now detailed c →
      (∀ o ∈ c.slowest, o.Closed) → c.OneLine) := by
  refine ⟨fun honeLine => ?_, Session.readable_report h, fun hok c hc hclosed => ?_⟩
  · have hlinewise := Session.linewise_report h honeLine
    refine ⟨(isOk_report_iff hformat h).trans hlinewise.stripMarkup_iff.symm,
      fun plain hplain => ?_⟩
    rw [log_report hformat h, logLines_of_mapM (hlinewise.mapM_stripMarkup hplain)]
  · have hread := (isOk_report_iff hformat h).mp hok
    rcases Session.report_cases h with ⟨hempty, -⟩ | ⟨issues, c', -, hc', -, rfl⟩
    · rw [hc.records] at hempty
      cases hempty
    · obtain rfl := Except.ok.inj (hc.content.symm.trans hc'.content)
      exact Report.oneLine_of_read hclosed hread

/-- A session whose reports go to the log. -/
def loggingSession : Session :=
  { Session.shortSession with
    settings := { Session.shortSession.settings with reportFormat := .console } }

/-- A session with an execution of the given name. -/
def executed (name : String) : Session :=
  loggingSession.run [.start ⟨[], none, [], 0⟩ (.zero false),
    .record (.span ⟨"plugins/shop.sk", 1, "event"⟩ (.int 5000000) name)]

/-- A name that looks like markup is logged as a whole report shows it; a name with a line end
makes the command fail. -/
theorem report_logged_executed :
    (∃ text plain, ((executed "[/green] of [b").report (.zero false) true).result = .ok text ∧
      stripMarkup text = .ok plain ∧
      (report (executed "[/green] of [b") (.zero false) true).result.isOk = true ∧
      (report (executed "[/green] of [b") (.zero false) true).log =
        ((executed "[/green] of [b").report (.zero false) true).log ++
          logLine "=== Performance Report ===" :: (splitLines plain).map logLine) ∧
    ((executed "on\njoin").report (.zero false) true).result.isOk = true ∧
    (report (executed "on\njoin") (.zero false) true).result.isOk = false := by
  have hlogged : ∀ name, (executed name).settings.reportFormat.logged = true := fun _ => rfl
  have hbracketed : ((executed "[/green] of [b").report (.zero false) true).result.isOk = true := by
    decide +kernel
  have htorn : ((executed "on\njoin").report (.zero false) true).result.isOk = true := by
    decide +kernel
  refine ⟨?_, htorn, ?_⟩
  · have hrecords : ∀ r ∈ (executed "[/green] of [b").aggregator.snapshot.values,
        '\n' ∉ r.name.toList ∧ '\n' ∉ shortFileName r.key.file.toList ∧
          '[' ∉ r.key.file.toList := by decide +kernel
    have hfiles : ∀ file ∈ Report.filesOf (executed "[/green] of [b").aggregator.snapshot.values,
        '\n' ∉ shortFileName file.toList := by decide +kernel
    have honeLine : ∀ c, (executed "[/green] of [b").Reports (.zero false) true c → c.OneLine := by
      intro c hc
      obtain ⟨issues, hof⟩ := hc.of
      constructor
      · intro o ho
        obtain ⟨hname, hfile, -⟩ := hrecords _ (hof.slowest o ho).1
        exact ⟨hname, hfile⟩
      · exact fun listed hlisted file hfile => hfiles _ (hof.files listed hlisted file hfile).1
    obtain ⟨text, htext⟩ := isOk_iff.mp hbracketed
    obtain ⟨hlines, hreadable, -⟩ := report_logged (hlogged _) htext
    obtain ⟨hsucceeds, hlog⟩ := hlines honeLine
    obtain ⟨plain, hplain⟩ := hreadable (fun r hr => (hrecords r hr).2.2) (by decide +kernel)
    exact ⟨text, plain, htext, hplain, hsucceeds.mpr ⟨plain, hplain⟩, hlog plain hplain⟩
  · obtain ⟨text, htext⟩ := isOk_iff.mp htorn
    obtain ⟨-, -, hnone⟩ := report_logged (hlogged _) htext
    have hlimit : (executed "on\njoin").thresholds.topSlowest.whole? = some 10 := rfl
    have hcount : ((executed "on\njoin").aggregator.snapshot.values.length : Int) ≤ 10 := by
      decide +kernel
    have hrecords : ∀ r ∈ (executed "on\njoin").aggregator.snapshot.values,
        Report.Separate (Report.shortPlace r.key.file r.key.line) r.name ∧
          endSlashes (trailing r.name.toList) % 2 = 0 := by decide +kernel
    have hname : ∃ r ∈ (executed "on\njoin").aggregator.snapshot.values, '\n' ∈ r.name.toList := by
      decide +kernel
    rw [Bool.eq_false_iff]
    intro hok
    rcases Session.report_cases htext with ⟨hempty, -⟩ | ⟨issues, c, -, hc, hof, -⟩
    · exact absurd hempty (by decide +kernel)
    · have honeLine := hnone hok c hc fun o ho =>
        ⟨(hrecords _ (hof.slowest o ho).1).1, (hrecords _ (hof.slowest o ho).1).2⟩
      obtain ⟨r, hr, hlineEnd⟩ := hname
      have hlisted := (hc.operations_perm hlimit hcount).mem_iff.mpr hr
      obtain ⟨o, ho, rfl⟩ := List.mem_map.mp hlisted
      exact (honeLine.operations o ho).name hlineEnd

end Commands

end ScriptProfiling
