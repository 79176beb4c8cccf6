import ScriptProfiling.Proofs.Report.Markup

/-!
# What a report says, and how it is written

A report is put together in two steps. What it says does not depend on markup: titles, quiet
lines, and the texts from scripts as they are. Writing it puts text into styles and escapes
what comes from scripts. Without styles and escapes the same contents make the plain report,
which is what a reader is meant to see.
-/
namespace ScriptProfiling
namespace Report

/-- A slow operation with its rank, and the figures below its title. -/
structure Listed where
  rank : Nat
  rated : Rated
  figures : List String

/-- What a report says. -/
structure Content where
  facts : List String
  slowest : List Listed
  /-- The heading above the issues. -/
  verdict : String
  issues : List Issue
  /-- Whether suggestions are told. -/
  suggestions : Bool
  remarks : List String
  /-- The files of the breakdown, if there is one, each with the lines below its name. -/
  files : Option (List (String × List String))
  tips : List String

/-- How a report is written: text in a style, text from scripts, and an opening bracket that
is text. -/
structure Voice where
  styled : String → String → String
  escaped : String → String
  bracket : String

namespace Voice

def markup : Voice := ⟨Report.styled, escapeMarkup, "\\["⟩

def plain : Voice := ⟨fun _ text => text, id, "["⟩

section Writing

variable (v : Voice)

def heading (title : String) : String := v.styled "bold cyan" title

def header (title : String) : List String :=
  [v.styled "gold1" rule, v.styled "bold yellow" ("  " ++ title), v.styled "gold1" rule]

/-- The rank, the place and the name of an operation. -/
def operation (o : Listed) : String :=
  wholeText o.rank ++ ". " ++
    v.escaped (shortPlace o.rated.record.key.file o.rated.record.key.line) ++ " - " ++
    v.escaped o.rated.record.name

def operationLines (o : Listed) : List String :=
  ("  " ++ v.styled (speedStyle o.rated.average) (v.operation o)) :: o.figures

/-- Where an issue is and what it is, and what to do about it. -/
def findingLines (suggestions : Bool) (i : Issue) : List String :=
  ["  Location: " ++ v.escaped (shortPlace i.file i.line),
   "  Issue: " ++ v.escaped i.description] ++
  if suggestions then ["  " ++ v.styled "green" ("Suggestion: " ++ v.escaped i.suggestion)]
  else []

def issueLines (suggestions : Bool) (i : Issue) : List String :=
  ["", "  " ++ v.styled (severityStyle i.severity)
    (v.bracket ++ i.severity.label ++ "] " ++ i.kind.displayName)] ++
  v.findingLines suggestions i

def fileLines (file : String × List String) : List String :=
  "" :: ("  " ++ v.styled "yellow" (v.escaped (String.ofList (shortFileName file.1.toList)) ++ ":"))
    :: file.2

def breakdown : Option (List (String × List String)) → List String
  | none => []
  | some files => v.heading "Detailed Breakdown by Script:" :: files.flatMap v.fileLines ++ [""]

def write (c : Content) : List String :=
  v.header "SKRIPT PROFILER REPORT" ++ [""] ++ (v.heading "Summary:" :: c.facts) ++ [""] ++
    (v.heading "Top Slowest Operations:" :: c.slowest.flatMap v.operationLines) ++ [""] ++
    (v.heading c.verdict :: (c.issues.flatMap (v.issueLines c.suggestions) ++ c.remarks)) ++ [""] ++
    v.breakdown c.files ++ (v.heading "General Recommendations:" :: c.tips)

end Writing

end Voice

section Content

/-- An operation with the figures that are told of it. -/
def withFigures (r : Nat × Rated) : Except Fault Listed :=
  (slowLines r.1 r.2).map fun ls => ⟨r.1, r.2, ls.tail⟩

/-- The operations that a report lists. -/
def listedOperations (t : Thresholds) (records : List (Record Int)) :
    Except Fault (List Listed) := do
  let listed ← firstOf t.topSlowest (← slowestFirst records)
  (ranked 1 listed).mapM withFigures

/-- An issue whose place can be told. -/
def placed (i : Issue) : Except Fault Issue := (shortLocation i.file i.line).map fun _ => i

/-- The issues that a report lists. -/
def listedIssues (t : Thresholds) (issues : List Issue) : Except Fault (List Issue) :=
  if issues.isEmpty then .ok [] else do (← firstOf t.maxIssues issues).mapM placed

def verdict (issues : List Issue) : String :=
  if issues.isEmpty then "Performance Issues:" else "Performance Issues Detected:"

def remarks (t : Thresholds) (issues : List Issue) : List String :=
  if issues.isEmpty then ["  No performance issues detected."] else hiddenLines t issues.length

/-- A file with the lines below its name. -/
def withLines (input : ReportInput) (file : String) : Except Fault (String × List String) :=
  (fileBlock input file).map fun ls => (file, ls.drop 2)

/-- The files of the breakdown, if one is wanted. -/
def listedFiles (input : ReportInput) (detailed : Bool) :
    Except Fault (Option (List (String × List String))) :=
  if detailed then ((filesOf input.metrics.values).mapM (withLines input)).map some else .ok none

def content (t : Thresholds) (default : Number) (input : ReportInput) (detailed : Bool) :
    Except Fault Content := do
  let load ← resolveLoad default input.load
  let facts ← (summary input load).map List.tail
  let slowest ← listedOperations t input.metrics.values
  let issues ← listedIssues t input.issues
  let files ← listedFiles input detailed
  return ⟨facts, slowest, verdict input.issues, issues, t.suggestions.truthy,
    remarks t input.issues, files, (recommendations input.issues).tail⟩

end Content

section Written

variable {t : Thresholds} {default : Number} {input : ReportInput} {detailed : Bool}

theorem slowLines_written (r : Nat × Rated) :
    slowLines r.1 r.2 = (withFigures r).map Voice.markup.operationLines := by
  unfold withFigures
  cases h : slowLines r.1 r.2 with
  | error e => rfl
  | ok ls =>
    obtain ⟨figures, rfl, -⟩ := slowLines_eq_ok h
    rfl

theorem fileBlock_written (file : String) :
    fileBlock input file = (withLines input file).map Voice.markup.fileLines := by
  unfold withLines
  cases h : fileBlock input file with
  | error e => rfl
  | ok ls =>
    obtain ⟨rated, listed, -, -, rfl⟩ := fileBlock_eq_ok h
    rfl

theorem slowestSection_written (records : List (Record Int)) :
    slowestSection t records = (listedOperations t records).map fun slowest =>
      heading "Top Slowest Operations:" :: slowest.flatMap Voice.markup.operationLines := by
  unfold slowestSection listedOperations
  cases slowestFirst records with
  | error e => rfl
  | ok rated =>
    change (firstOf t.topSlowest rated >>= _) = (firstOf t.topSlowest rated >>= _).map _
    cases firstOf t.topSlowest rated with
    | error e => rfl
    | ok listed =>
      change ((ranked 1 listed).mapM (fun r => slowLines r.1 r.2) >>= _) =
        ((ranked 1 listed).mapM withFigures).map _
      rw [mapM_eq_map fun r _ => slowLines_written r]
      cases (ranked 1 listed).mapM withFigures with
      | error e => rfl
      | ok slowest => rfl

theorem issueLines_written (i : Issue) :
    issueLines t i = (placed i).map (Voice.markup.issueLines t.suggestions.truthy) := by
  unfold issueLines placed
  cases h : shortLocation i.file i.line with
  | error e => rfl
  | ok place =>
    obtain ⟨-, rfl⟩ := shortLocation_eq_ok.mp h
    rfl

theorem issuesSection_written (issues : List Issue) :
    issuesSection t issues = (listedIssues t issues).map fun listed => heading (verdict issues) ::
      (listed.flatMap (Voice.markup.issueLines t.suggestions.truthy) ++ remarks t issues) := by
  unfold issuesSection listedIssues verdict remarks
  cases issues with
  | nil => rfl
  | cons i issues =>
    change (firstOf t.maxIssues (i :: issues) >>= _) =
      (firstOf t.maxIssues (i :: issues) >>= _).map _
    cases firstOf t.maxIssues (i :: issues) with
    | error e => rfl
    | ok listed =>
      change (listed.mapM (issueLines t) >>= _) = (listed.mapM placed).map _
      rw [mapM_eq_map fun i _ => issueLines_written i]
      cases listed.mapM placed with
      | error e => rfl
      | ok listed => rfl

theorem breakdown_written :
    breakdown input = ((filesOf input.metrics.values).mapM (withLines input)).map fun files =>
      heading "Detailed Breakdown by Script:" :: files.flatMap Voice.markup.fileLines := by
  unfold breakdown
  rw [mapM_eq_map fun file _ => fileBlock_written file]
  cases (filesOf input.metrics.values).mapM (withLines input) with
  | error e => rfl
  | ok files => rfl

/-- The report is its contents in the voice of markup. -/
theorem lines_written :
    lines t default input detailed = (content t default input detailed).map Voice.markup.write := by
  unfold lines content
  cases resolveLoad default input.load with
  | error e => rfl
  | ok load =>
    change (summary input load >>= _) = ((summary input load).map List.tail >>= _).map _
    cases hsummary : summary input load with
    | error e => rfl
    | ok overview =>
      obtain ⟨facts, rfl, -⟩ := tame_summary hsummary
      change (slowestSection t input.metrics.values >>= _) =
        (listedOperations t input.metrics.values >>= _).map _
      rw [slowestSection_written]
      cases listedOperations t input.metrics.values with
      | error e => rfl
      | ok slowest =>
        change (issuesSection t input.issues >>= _) = (listedIssues t input.issues >>= _).map _
        rw [issuesSection_written]
        cases listedIssues t input.issues with
        | error e => rfl
        | ok issues =>
          cases detailed with
          | false => rfl
          | true =>
            change ((breakdown input).map (· ++ [""]) >>= _) =
              (((filesOf input.metrics.values).mapM (withLines input)).map some >>= _).map _
            rw [breakdown_written]
            cases (filesOf input.metrics.values).mapM (withLines input) with
            | error e => rfl
            | ok files => rfl

theorem exists_content {text : String} (h : render t default input detailed = .ok text)
    (hmetrics : input.metrics.isEmpty = false) :
    ∃ c, content t default input detailed = .ok c ∧ text = joinLines (Voice.markup.write c) := by
  unfold render at h
  rw [hmetrics, if_neg Bool.false_ne_true, lines_written] at h
  obtain ⟨ls, hls, rfl⟩ := map_eq_ok.mp h
  obtain ⟨c, hcontent, rfl⟩ := map_eq_ok.mp hls
  exact ⟨c, hcontent, rfl⟩

/-- What a report says about an input: nothing but texts from scripts is other than tame, and
these are of the input. -/
structure Content.Of (input : ReportInput) (c : Content) : Prop where
  facts : ∀ l ∈ c.facts, Tame l.toList
  slowest : ∀ o ∈ c.slowest,
    o.rated.record ∈ input.metrics.values ∧ ∀ l ∈ o.figures, Tame l.toList
  verdict : Tame c.verdict.toList
  issues : ∀ i ∈ c.issues, i ∈ input.issues
  remarks : ∀ l ∈ c.remarks, Tame l.toList
  files : ∀ files ∈ c.files, ∀ file ∈ files,
    file.1 ∈ filesOf input.metrics.values ∧ ∀ l ∈ file.2, Tame l.toList
  tips : ∀ l ∈ c.tips, Tame l.toList

theorem slowest_of {slowest : List Listed}
    (h : listedOperations t input.metrics.values = .ok slowest) :
    ∀ o ∈ slowest, o.rated.record ∈ input.metrics.values ∧ ∀ l ∈ o.figures, Tame l.toList := by
  obtain ⟨rated, hrated, h⟩ := bind_eq_ok.mp h
  obtain ⟨listed, hlisted, h⟩ := bind_eq_ok.mp h
  intro o ho
  obtain ⟨r, hr, hfigures⟩ := exists_of_mem_mapM h ho
  obtain ⟨ls, hls, rfl⟩ := map_eq_ok.mp hfigures
  obtain ⟨figures, rfl, hquiet⟩ := slowLines_eq_ok hls
  exact ⟨mem_of_slowestFirst hrated r.2 (mem_of_firstOf hlisted r.2 (mem_of_mem_ranked hr)),
    List.forall_mem_singleton.mpr hquiet⟩

theorem map_snd_ranked {α : Type} (rank : Nat) (xs : List α) :
    (ranked rank xs).map Prod.snd = xs := by
  induction xs generalizing rank with
  | nil => rfl
  | cons x xs ih => rw [ranked, List.map_cons, ih]

theorem records_of_rate {records : List (Record Int)} {rated : List Rated}
    (h : records.mapM rate = .ok rated) : rated.map Rated.record = records := by
  have hsame : rated.map Rated.record = records.map id := by
    refine map_of_mapM (fun r _ q hq => ?_) h
    obtain ⟨average, -, rfl⟩ := map_eq_ok.mp hq
    rfl
  rwa [List.map_id] at hsame

theorem rated_of_withFigures {rank : Nat} {shown : List Rated} {listed : List Listed}
    (h : (ranked rank shown).mapM withFigures = .ok listed) : listed.map Listed.rated = shown := by
  rw [← map_snd_ranked rank shown]
  refine map_of_mapM (fun r _ o ho => ?_) h
  obtain ⟨ls, -, rfl⟩ := map_eq_ok.mp ho
  rfl

theorem listedOperations_eq_ok {records : List (Record Int)} {slowest : List Listed}
    (h : listedOperations t records = .ok slowest) :
    ∃ rated n, slowestFirst records = .ok rated ∧ (rated.map Rated.record).Perm records ∧
      t.topSlowest.whole? = some n ∧ slowest.map Listed.rated = rated.take n.toNat := by
  obtain ⟨rated, hrated, h⟩ := bind_eq_ok.mp h
  obtain ⟨listed, hlisted, h⟩ := bind_eq_ok.mp h
  have hfigures := rated_of_withFigures h
  have hperm : (rated.map Rated.record).Perm records := by
    obtain ⟨all, hall, rfl⟩ := map_eq_ok.mp hrated
    rw [← records_of_rate hall]
    exact (List.mergeSort_perm ..).map _
  unfold firstOf at hlisted
  split at hlisted
  · next n hn =>
    obtain rfl := Except.ok.inj hlisted
    exact ⟨rated, n, hrated, hperm, hn, hfigures⟩
  · cases hlisted

/-- Where the limit allows, they are all of the records. -/
theorem operations_perm {records : List (Record Int)} {slowest : List Listed}
    (h : listedOperations t records = .ok slowest) {n : Int} (hn : t.topSlowest.whole? = some n)
    (hlength : (records.length : Int) ≤ n) :
    (slowest.map fun o => o.rated.record).Perm records := by
  obtain ⟨rated, m, -, hperm, hm, hlisted⟩ := listedOperations_eq_ok h
  obtain rfl := Option.some.inj (hn.symm.trans hm)
  have hall : rated.take n.toNat = rated := by
    have hcount := hperm.length_eq
    rw [List.length_map] at hcount
    exact List.take_of_length_le (by omega)
  rw [hall] at hlisted
  rw [← hlisted, List.map_map] at hperm
  exact hperm

theorem issues_of_placed {issues listed : List Issue} (h : issues.mapM placed = .ok listed) :
    listed = issues := by
  have hsame : listed.map id = issues.map id := by
    refine map_of_mapM (fun i _ j hj => ?_) h
    obtain ⟨place, -, rfl⟩ := map_eq_ok.mp hj
    rfl
  rwa [List.map_id, List.map_id] at hsame

theorem issues_of {all issues : List Issue} (h : listedIssues t all = .ok issues) :
    ∀ i ∈ issues, i ∈ all := by
  unfold listedIssues at h
  split at h
  · obtain rfl := Except.ok.inj h
    exact fun i hi => absurd hi List.not_mem_nil
  · obtain ⟨listed, hlisted, h⟩ := bind_eq_ok.mp h
    obtain rfl := issues_of_placed h
    exact mem_of_firstOf hlisted

theorem files_of {files : Option (List (String × List String))}
    (h : listedFiles input detailed = .ok files) : ∀ listed ∈ files, ∀ file ∈ listed,
      file.1 ∈ filesOf input.metrics.values ∧ ∀ l ∈ file.2, Tame l.toList := by
  unfold listedFiles at h
  split at h
  · obtain ⟨blocks, hblocks, rfl⟩ := map_eq_ok.mp h
    intro listed hlisted file hfile
    obtain rfl := Option.some.inj hlisted
    obtain ⟨name, hname, hlines⟩ := exists_of_mem_mapM hblocks hfile
    obtain ⟨ls, hls, rfl⟩ := map_eq_ok.mp hlines
    obtain ⟨rated, shown, -, -, rfl⟩ := fileBlock_eq_ok hls
    exact ⟨hname, tame_below _ shown⟩
  · obtain rfl := Except.ok.inj h
    nofun

/-- Contents part by part, with what each is taken from. -/
structure Content.Told (t : Thresholds) (default : Number) (input : ReportInput) (detailed : Bool)
    (c : Content) : Prop where
  facts : ∃ load, summary input load = .ok (heading "Summary:" :: c.facts)
  slowest : listedOperations t input.metrics.values = .ok c.slowest
  verdict : c.verdict = Report.verdict input.issues
  issues : listedIssues t input.issues = .ok c.issues
  suggestions : c.suggestions = t.suggestions.truthy
  remarks : c.remarks = Report.remarks t input.issues
  files : listedFiles input detailed = .ok c.files
  tips : c.tips = (recommendations input.issues).tail

theorem told_content {c : Content} (h : content t default input detailed = .ok c) :
    c.Told t default input detailed := by
  obtain ⟨load, -, h⟩ := bind_eq_ok.mp h
  obtain ⟨facts, hfacts, h⟩ := bind_eq_ok.mp h
  obtain ⟨slowest, hslowest, h⟩ := bind_eq_ok.mp h
  obtain ⟨issues, hissues, h⟩ := bind_eq_ok.mp h
  obtain ⟨files, hfiles, h⟩ := bind_eq_ok.mp h
  obtain rfl := pure_eq_ok.mp h
  obtain ⟨overview, hoverview, rfl⟩ := map_eq_ok.mp hfacts
  obtain ⟨facts, rfl, -⟩ := tame_summary hoverview
  exact ⟨⟨load, hoverview⟩, hslowest, rfl, hissues, rfl, rfl, hfiles, rfl⟩

theorem content_of {c : Content} (h : content t default input detailed = .ok c) : c.Of input := by
  have htold := told_content h
  constructor
  case facts =>
    obtain ⟨load, hfacts⟩ := htold.facts
    obtain ⟨facts, hlines, hquiet⟩ := tame_summary hfacts
    obtain ⟨-, rfl⟩ := List.cons.inj hlines
    exact hquiet
  case slowest => exact slowest_of htold.slowest
  case verdict =>
    rw [htold.verdict]
    unfold verdict
    split <;> decide
  case issues => exact issues_of htold.issues
  case remarks =>
    rw [htold.remarks]
    unfold remarks
    split
    · decide
    · exact tame_hiddenLines t _
  case files => exact files_of htold.files
  case tips =>
    rw [htold.tips]
    exact tame_tips _

/-- The texts that a report is to show, in their order: each operation that it lists and each
issue that it lists, with its suggestion if suggestions are told. -/
def Content.texts (c : Content) : List String :=
  c.slowest.map (fun o => "  " ++ (wholeText o.rank ++ ". " ++
    shortPlace o.rated.record.key.file o.rated.record.key.line ++ " - " ++
    o.rated.record.name)) ++
  c.issues.flatMap fun i =>
    ["  Location: " ++ shortPlace i.file i.line, "  Issue: " ++ i.description] ++
      if c.suggestions then ["  " ++ ("Suggestion: " ++ i.suggestion)] else []

theorem texts_sublist (c : Content) : c.texts.Sublist (Voice.plain.write c) := by
  have hflatMap : ∀ {α : Type} (xs : List α) (f g : α → List String),
      (∀ x, (f x).Sublist (g x)) → (xs.flatMap f).Sublist (xs.flatMap g) := by
    intro α xs f g h
    induction xs with
    | nil => exact List.Sublist.refl []
    | cons x xs ih => exact (h x).append ih
  have hslowest : (c.slowest.map fun o => "  " ++ Voice.plain.operation o).Sublist
      (Voice.plain.heading "Top Slowest Operations:" ::
        c.slowest.flatMap Voice.plain.operationLines) := by
    rw [← List.flatMap_pure_eq_map]
    exact (hflatMap _ _ _ fun o => (List.nil_sublist _).cons_cons _).cons _
  have hissues : (c.issues.flatMap (Voice.plain.findingLines c.suggestions)).Sublist
      (Voice.plain.heading c.verdict ::
        (c.issues.flatMap (Voice.plain.issueLines c.suggestions) ++ c.remarks)) := by
    refine ((hflatMap _ _ _ fun i => ?_).trans (List.sublist_append_left _ _)).cons _
    exact List.sublist_append_right _ _
  unfold Voice.write
  refine List.Sublist.trans ?_ (List.sublist_append_left _ _)
  refine List.Sublist.trans ?_ (List.sublist_append_left _ _)
  refine List.Sublist.trans ?_ (List.sublist_append_left _ _)
  refine List.Sublist.append ?_ hissues
  exact (hslowest.trans (List.sublist_append_right _ _)).trans (List.sublist_append_left _ _)

end Written

end Report
end ScriptProfiling
