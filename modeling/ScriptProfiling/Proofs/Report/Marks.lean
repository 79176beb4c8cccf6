import ScriptProfiling.Proofs.Report.Linewise

/-!
# Lines of a report by their marks

The first character behind the indent of a line tells what the line is about, whatever text from
scripts follows it: the place of an issue, the number of issues left out, a tip, or a total. These
lines of a report are those of the parts that tell such things, and no others.

So counting the lines of some mark counts what the report shows, without a word about the texts in
it. A line is told by its mark only if it is one line, which is a matter of the texts.
-/
namespace ScriptProfiling
namespace Report

/-- The character behind an indent of two blanks. -/
def mark (l : String) : Option Char := l.toList[2]?

def marked (c : Char) (ls : List String) : List String := ls.filter fun l => mark l == some c

/-- The marks of places, of what is left out, of tips, and of totals. -/
def signs : List Char := ['L', '.', '•', 'S', 'T']

/-- Lines without any of the signs. -/
def Unsigned (ls : List String) : Prop := ∀ l ∈ ls, ∀ c ∈ signs, mark l ≠ some c

section Lines

variable {a b l style text : String} {c : Char} {ls more : List String}

theorem mark_append (h : mark a = some c) : mark (a ++ b) = some c := by
  unfold mark at h ⊢
  obtain ⟨hlength, -⟩ := List.getElem?_eq_some_iff.mp h
  rw [String.toList_append, List.getElem?_append_left hlength, h]

theorem mark_styled (h : mark ("[" ++ style) = some c) : mark (styled style text) = some c :=
  mark_append (mark_append (mark_append (mark_append (mark_append h))))

theorem mark_indented_styled : mark ("  " ++ styled style text) = some '[' := by
  simp [mark, styled, String.toList_append]

theorem mark_blank : mark "" = none := rfl

theorem ne_of_mem_signs (hc : c ∈ signs) {d : Char} (hd : d ∉ signs) : d ≠ c :=
  fun h => hd (h ▸ hc)

theorem marked_nil : marked c [] = [] := List.filter_nil

theorem marked_cons :
    marked c (l :: ls) = if mark l = some c then l :: marked c ls else marked c ls := by
  simp only [marked, List.filter_cons, beq_iff_eq]

theorem marked_append : marked c (ls ++ more) = marked c ls ++ marked c more :=
  List.filter_append ..

theorem marked_eq_self (h : ∀ l ∈ ls, mark l = some c) : marked c ls = ls :=
  List.filter_eq_self.mpr fun l hl => beq_iff_eq.mpr (h l hl)

theorem marked_eq_nil (h : ∀ l ∈ ls, mark l ≠ some c) : marked c ls = [] :=
  List.filter_eq_nil_iff.mpr fun l hl hmark => h l hl (beq_iff_eq.mp hmark)

theorem mem_marked : l ∈ marked c ls ↔ l ∈ ls ∧ mark l = some c :=
  List.mem_filter.trans (and_congr_right' beq_iff_eq)

theorem unsigned_of_mark (d : Char) (hd : d ∉ signs) (h : ∀ l ∈ ls, mark l = some d) :
    Unsigned ls := by
  intro l hl c hc hmark
  exact ne_of_mem_signs hc hd (Option.some.inj ((h l hl).symm.trans hmark))

theorem unsigned_line (d : Char) (hd : d ∉ signs) (h : mark l = some d) : Unsigned [l] :=
  unsigned_of_mark d hd (List.forall_mem_singleton.mpr h)

theorem Unsigned.append (h : Unsigned ls) (hmore : Unsigned more) : Unsigned (ls ++ more) :=
  List.forall_mem_append.mpr ⟨h, hmore⟩

theorem marked_of_unsigned (h : Unsigned ls) (hc : c ∈ signs) : marked c ls = [] :=
  marked_eq_nil fun l hl => h l hl c hc

theorem marked_cons_of_unsigned (h : Unsigned [l]) (hc : c ∈ signs) :
    marked c (l :: ls) = marked c ls := by
  rw [marked_cons, if_neg (h l List.mem_cons_self c hc)]

theorem unsigned_blank : Unsigned [""] := by
  refine List.forall_mem_singleton.mpr fun c _ hmark => ?_
  rw [mark_blank] at hmark
  cases hmark

theorem unsigned_flatMap {α : Type} {xs : List α} {f : α → List String}
    (h : ∀ x ∈ xs, Unsigned (f x)) : Unsigned (xs.flatMap f) := by
  intro l hl
  obtain ⟨x, hx, hl⟩ := List.mem_flatMap.mp hl
  exact h x hx l hl

end Lines

section Parts

variable {t : Thresholds} {default : Number} {input : ReportInput} {detailed : Bool} {c : Content}

theorem unsigned_heading (title : String) : Unsigned [Voice.markup.heading title] :=
  unsigned_line 'o' (by decide) (mark_styled (by decide))

theorem unsigned_header (title : String) : Unsigned (Voice.markup.header title) := by
  have hframe : mark (styled "gold1" rule) = some 'o' := mark_styled (by decide)
  refine unsigned_of_mark 'o' (by decide) ?_
  exact List.forall_mem_cons.mpr ⟨hframe, List.forall_mem_cons.mpr
    ⟨mark_styled (by decide), List.forall_mem_singleton.mpr hframe⟩⟩

theorem unsigned_figures {r : Nat × Rated} {o : Listed} (h : withFigures r = .ok o) :
    Unsigned o.figures := by
  obtain ⟨ls, hls, rfl⟩ := map_eq_ok.mp h
  obtain ⟨place, -, hls⟩ := bind_eq_ok.mp hls
  obtain ⟨longest, -, hls⟩ := bind_eq_ok.mp hls
  obtain ⟨count, -, hls⟩ := bind_eq_ok.mp hls
  obtain rfl := pure_eq_ok.mp hls
  refine unsigned_line ' ' (by decide) ?_
  exact mark_append (mark_append (mark_append (mark_append (mark_append (by decide)))))

theorem unsigned_operations {records : List (Record Int)} {slowest : List Listed}
    (h : listedOperations t records = .ok slowest) :
    Unsigned (slowest.flatMap Voice.markup.operationLines) := by
  obtain ⟨rated, -, h⟩ := bind_eq_ok.mp h
  obtain ⟨listed, -, h⟩ := bind_eq_ok.mp h
  refine unsigned_flatMap fun o ho => ?_
  obtain ⟨r, -, hfigures⟩ := exists_of_mem_mapM h ho
  have htitle : Unsigned ["  " ++ styled (speedStyle o.rated.average) (Voice.markup.operation o)] :=
    unsigned_line '[' (by decide) mark_indented_styled
  exact htitle.append (unsigned_figures hfigures)

theorem mark_factTexts (info : ScriptInfo) : ∀ l ∈ factTexts info, mark l = some ' ' := by
  refine List.forall_mem_cons.mpr ⟨?_, List.forall_mem_singleton.mpr ?_⟩
  · exact mark_append (mark_append (mark_append (mark_append (mark_append (by decide)))))
  · exact mark_append (mark_append (mark_append (by decide)))

theorem mark_recordText (r : Rated) : mark (recordText r) = some ' ' :=
  mark_append (mark_append (mark_append (mark_append (mark_append (mark_append (by decide))))))

theorem unsigned_file {file : String} {listed : String × List String}
    (h : withLines input file = .ok listed) : Unsigned (Voice.markup.fileLines listed) := by
  obtain ⟨ls, hls, rfl⟩ := map_eq_ok.mp h
  obtain ⟨rated, shown, -, -, rfl⟩ := fileBlock_eq_ok hls
  have htitle : Unsigned ["  " ++ styled "yellow" (fileTitle file)] :=
    unsigned_line '[' (by decide) mark_indented_styled
  refine (unsigned_blank.append htitle).append
    (unsigned_of_mark ' ' (by decide) (List.forall_mem_append.mpr ⟨?_, ?_⟩))
  · cases input.scripts.get? file with
    | none => exact List.forall_mem_nil _
    | some info => exact mark_factTexts info
  · exact List.forall_mem_map.mpr fun r _ => mark_recordText r

theorem unsigned_breakdown {files : Option (List (String × List String))}
    (h : listedFiles input detailed = .ok files) : Unsigned (Voice.markup.breakdown files) := by
  unfold listedFiles at h
  split at h
  · obtain ⟨listed, hlisted, rfl⟩ := map_eq_ok.mp h
    refine Unsigned.append (.append (unsigned_heading _) (unsigned_flatMap fun file hfile => ?_))
      unsigned_blank
    obtain ⟨name, -, hlines⟩ := exists_of_mem_mapM hlisted hfile
    exact unsigned_file hlines
  · obtain rfl := Except.ok.inj h
    exact List.forall_mem_nil _

theorem marked_issueLines (suggestions : Bool) (i : Issue) {c : Char} (hc : c ∈ signs) :
    marked c (Voice.markup.issueLines suggestions i) =
      if 'L' = c then ["  Location: " ++ escapeMarkup (shortPlace i.file i.line)] else [] := by
  have htitle : mark ("  " ++ styled (severityStyle i.severity)
      ("\\[" ++ i.severity.label ++ "] " ++ i.kind.displayName)) = some '[' := mark_indented_styled
  have hplace : mark ("  Location: " ++ escapeMarkup (shortPlace i.file i.line)) = some 'L' :=
    mark_append (by decide)
  have hissue : mark ("  Issue: " ++ escapeMarkup i.description) = some 'I' :=
    mark_append (by decide)
  have hsuggestion : mark ("  " ++ styled "green" ("Suggestion: " ++ escapeMarkup i.suggestion)) =
      some '[' := mark_indented_styled
  have hopening : '[' ≠ c := ne_of_mem_signs hc (by decide)
  have hword : 'I' ≠ c := ne_of_mem_signs hc (by decide)
  unfold Voice.issueLines Voice.findingLines
  cases suggestions <;>
    simp [marked_cons, marked_nil, Voice.markup, mark_blank, htitle, hplace, hissue, hsuggestion,
      hopening, hword]

theorem marked_issues (suggestions : Bool) (issues : List Issue) {c : Char} (hc : c ∈ signs) :
    marked c (issues.flatMap (Voice.markup.issueLines suggestions)) =
      if 'L' = c then issues.map fun i =>
        "  Location: " ++ escapeMarkup (shortPlace i.file i.line) else [] := by
  induction issues with
  | nil => simp [marked_nil]
  | cons i issues ih =>
    rw [List.flatMap_cons, marked_append, marked_issueLines suggestions i hc, ih]
    split <;> rfl

/-- The line that tells how many issues are left out. -/
def hiddenLine (limit count : Nat) : String :=
  "  ... and " ++ wholeText (count - limit) ++ " more issue(s)"

theorem hiddenLines_eq {limit : Nat} (hlimit : t.maxIssues.whole? = some (limit : Int))
    (count : Nat) :
    hiddenLines t count = if limit < count then ["", hiddenLine limit count] else [] := by
  unfold hiddenLines
  rw [hlimit]
  simp only [Nat.cast_lt]
  rfl

theorem marked_remarks {limit : Nat} (hlimit : t.maxIssues.whole? = some (limit : Int))
    (issues : List Issue) {c : Char} (hc : c ∈ signs) :
    marked c (remarks t issues) =
      if '.' = c ∧ limit < issues.length then [hiddenLine limit issues.length] else [] := by
  have hword : 'N' ≠ c := ne_of_mem_signs hc (by decide)
  have hquiet : mark "  No performance issues detected." = some 'N' := by decide
  have hhidden : mark (hiddenLine limit issues.length) = some '.' :=
    mark_append (mark_append (by decide))
  unfold remarks
  rw [hiddenLines_eq hlimit]
  by_cases hempty : issues.isEmpty = true
  · obtain rfl := List.isEmpty_iff.mp hempty
    simp [marked_cons, marked_nil, hquiet, hword]
  · rw [if_neg hempty]
    split
    · next hmore => simp [marked_cons, marked_nil, mark_blank, hhidden, hmore]
    · next hmore => simp [marked_nil, hmore]

theorem mark_tip (tip : String) : mark ("  • " ++ tip) = some '•' := mark_append (by decide)

theorem marked_tips (tips : List String) {c : Char} :
    marked c (tips.map ("  • " ++ ·)) = if '•' = c then tips.map ("  • " ++ ·) else [] := by
  split
  · next h =>
    subst h
    exact marked_eq_self (List.forall_mem_map.mpr fun tip _ => mark_tip tip)
  · next h =>
    refine marked_eq_nil (List.forall_mem_map.mpr fun tip _ => ?_)
    rw [mark_tip]
    exact fun heq => h (Option.some.inj heq)

/-- What the summary tells: its totals are those of the records and the scripts. -/
theorem marked_facts {load : Number} {facts : List String}
    (h : summary input load = .ok (heading "Summary:" :: facts)) :
    ∃ time, ∀ c ∈ signs, marked c facts =
      if 'S' = c then ["  Scripts Analyzed: " ++ wholeText input.scripts.size]
      else if 'T' = c then
        ["  Total Events/Functions Tracked: " ++ wholeText input.metrics.values.length,
         "  Total Executions: " ++ wholeText (Metrics.executions input.metrics),
         "  Total Execution Time: " ++ time ++ "ms"]
      else [] := by
  obtain ⟨total, -, h⟩ := bind_eq_ok.mp h
  obtain ⟨duration, -, h⟩ := bind_eq_ok.mp h
  obtain ⟨now, -, h⟩ := bind_eq_ok.mp h
  obtain ⟨executions, hexecutions, h⟩ := bind_eq_ok.mp h
  obtain ⟨-, rfl⟩ := List.cons.inj (pure_eq_ok.mp h)
  obtain rfl : executions = wholeText (Metrics.executions input.metrics) := by
    rw [foldl_count, Int.zero_add] at hexecutions
    unfold wholeTextLimited at hexecutions
    split at hexecutions
    · exact (Except.ok.inj hexecutions).symm
    · cases hexecutions
  refine ⟨(sumFloats total).fixedText 2, fun c hc => ?_⟩
  have hother : 'D' ≠ c ∧ 'C' ≠ c :=
    ⟨ne_of_mem_signs hc (by decide), ne_of_mem_signs hc (by decide)⟩
  have hduration : mark ("  Duration: " ++ (duration.divNat 1000).fixedText 2 ++ " seconds") =
      some 'D' := mark_append (mark_append (by decide))
  have hload : mark ("  Current TPS: " ++ now) = some 'C' := mark_append (by decide)
  have hscripts : mark ("  Scripts Analyzed: " ++ wholeText input.scripts.size) = some 'S' :=
    mark_append (by decide)
  have htracked : mark ("  Total Events/Functions Tracked: " ++
      wholeText input.metrics.values.length) = some 'T' := mark_append (by decide)
  have hcounted : mark ("  Total Executions: " ++ wholeText (Metrics.executions input.metrics)) =
      some 'T' := mark_append (by decide)
  have htime : mark ("  Total Execution Time: " ++ (sumFloats total).fixedText 2 ++ "ms") =
      some 'T' := mark_append (mark_append (by decide))
  simp only [marked_cons, marked_nil, hduration, hload, hscripts, htracked, hcounted, htime,
    Option.some.injEq, hother, if_false]
  split
  · next hsign =>
    subst hsign
    rfl
  · by_cases hsign : 'T' = c
    · simp only [hsign, if_true]
    · simp only [hsign, if_false]

/-- The report up to the first issue. -/
def Voice.opening (v : Voice) (c : Content) : List String :=
  v.header "SKRIPT PROFILER REPORT" ++ [""] ++ (v.heading "Summary:" :: c.facts) ++ [""] ++
    (v.heading "Top Slowest Operations:" :: c.slowest.flatMap v.operationLines) ++ [""] ++
    [v.heading c.verdict]

/-- The report behind the last issue. -/
def Voice.closing (v : Voice) (c : Content) : List String :=
  c.remarks ++ [""] ++ v.breakdown c.files ++ (v.heading "General Recommendations:" :: c.tips)

theorem write_eq (v : Voice) (c : Content) :
    v.write c = v.opening c ++ c.issues.flatMap (v.issueLines c.suggestions) ++ v.closing c := by
  simp only [Voice.write, Voice.opening, Voice.closing, List.append_assoc, List.cons_append,
    List.nil_append]

section Whole

variable {sign : Char} (hsign : sign ∈ signs)

include hsign

theorem marked_opening (h : c.Told t default input detailed) :
    marked sign (Voice.markup.opening c) = marked sign c.facts := by
  have hheader := marked_of_unsigned (unsigned_header "SKRIPT PROFILER REPORT") hsign
  have hblank := marked_of_unsigned unsigned_blank hsign
  have hfacts : marked sign (Voice.markup.heading "Summary:" :: c.facts) = marked sign c.facts :=
    marked_cons_of_unsigned (unsigned_heading _) hsign
  have hslowest := marked_of_unsigned ((unsigned_heading "Top Slowest Operations:").append
    (unsigned_operations h.slowest)) hsign
  have hverdict := marked_of_unsigned (unsigned_heading c.verdict) hsign
  rw [List.singleton_append] at hslowest
  simp only [Voice.opening, marked_append, hheader, hblank, hfacts, hslowest, hverdict,
    List.nil_append, List.append_nil]

theorem marked_closing {limit : Nat} (hlimit : t.maxIssues.whole? = some (limit : Int))
    (h : c.Told t default input detailed) :
    marked sign (Voice.markup.closing c) =
      (if '.' = sign ∧ limit < input.issues.length then [hiddenLine limit input.issues.length]
        else []) ++ if '•' = sign then c.tips else [] := by
  have hremarks := marked_remarks hlimit input.issues hsign
  have hblank := marked_of_unsigned unsigned_blank hsign
  have hfiles := marked_of_unsigned (unsigned_breakdown h.files) hsign
  have htips : marked sign (Voice.markup.heading "General Recommendations:" :: c.tips) =
      if '•' = sign then c.tips else [] := by
    rw [marked_cons_of_unsigned (unsigned_heading _) hsign, h.tips]
    exact marked_tips _
  simp only [Voice.closing, marked_append, h.remarks, hremarks, hblank, hfiles, htips,
    List.append_nil]

theorem marked_write {limit : Nat} (hlimit : t.maxIssues.whole? = some (limit : Int))
    (h : c.Told t default input detailed) :
    marked sign (Voice.markup.write c) = marked sign c.facts ++
      (if 'L' = sign then
        c.issues.map fun i => "  Location: " ++ escapeMarkup (shortPlace i.file i.line) else []) ++
      ((if '.' = sign ∧ limit < input.issues.length then [hiddenLine limit input.issues.length]
        else []) ++ if '•' = sign then c.tips else []) := by
  rw [write_eq, marked_append, marked_append, marked_opening hsign h,
    marked_issues c.suggestions c.issues hsign, marked_closing hsign hlimit h]

end Whole

end Parts

end Report
end ScriptProfiling
