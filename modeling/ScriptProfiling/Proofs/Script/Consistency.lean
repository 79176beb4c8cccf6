import ScriptProfiling.Proofs.Script.Declared

/-!
# The facts of a script fit together

Counters, tables and labels are told of the same lines. What is counted is what is labelled, the
tables of loops and waits have the lines with such labels, and a line has labels exactly if some
detector has found something in it. An event, a function and a command begin with keywords of
different first letters, so no line declares two of them.
-/
namespace ScriptProfiling

namespace Label

/-- The beginning of a label that tells its detector. -/
def front : Label → String
  | .event _ => "Event: "
  | .function _ => "Function: "
  | .command _ => "Command: "
  | .loop => "Loop"
  | .wait _ => "Wait: "

def fronts : List String := ["Event: ", "Function: ", "Command: ", "Loop", "Wait: "]

/-- The place of a detector in the order of the labels. -/
def rank : Label → Nat
  | .event _ => 0
  | .function _ => 1
  | .command _ => 2
  | .loop => 3
  | .wait _ => 4

/-- Labels of what opens a line, with the first letters of their keywords. -/
def openings : List (String × Char) := [("Event: ", 'o'), ("Function: ", 'f'), ("Command: ", 'c')]

variable {l : Label}

theorem mem_fronts (l : Label) : l.front ∈ fronts := by cases l <;> simp [front, fronts]

theorem isPrefix_front (l : Label) : l.front.toList <+: l.text.toList := by
  cases l with
  | loop => exact List.prefix_rfl
  | _ =>
    rw [text, String.toList_append]
    exact List.prefix_append _ _

/-- The label tells its detector, whatever follows. -/
theorem isPrefix_text_iff {front : String} (h : front ∈ fronts) :
    front.toList <+: l.text.toList ↔ l.front = front := by
  have hapart : ∀ a ∈ fronts, ∀ b ∈ fronts, a.toList <+: b.toList → a = b := by decide
  constructor
  · intro hprefix
    rcases List.prefix_or_prefix_of_prefix hprefix l.isPrefix_front with hle | hle
    · exact (hapart front h l.front l.mem_fronts hle).symm
    · exact hapart l.front l.mem_fronts front h hle
  · rintro rfl
    exact l.isPrefix_front

theorem text_eq_loop : l.text = "Loop" ↔ l = .loop := by
  cases l <;> simp [text, ← String.toList_inj]

theorem text_eq_wait {told : String} :
    l.text = "Wait: " ++ told ↔ ∃ w : Wait, l = .wait w ∧ w.text = told := by
  cases l <;> simp [text, ← String.toList_inj]

end Label

namespace LineFacts

variable {f : LineFacts}

/-- One label at most of each detector, in their order. -/
theorem pairwise_labels (f : LineFacts) : f.labels.Pairwise fun a b => a.rank < b.rank := by
  obtain ⟨event, function, command, loop, wait, accesses⟩ := f
  cases event <;> cases function <;> cases command <;> cases loop <;> cases wait <;>
    simp [labels, Label.rank]

/-- The label of something that the line declares. -/
def Declares (f : LineFacts) : Label → Prop
  | .event trigger => f.event? = some trigger
  | .function name => f.function? = some name
  | .command name => f.command? = some name
  | .loop => f.loop = true
  | .wait w => f.wait? = some w

theorem mem_labels {l : Label} : l ∈ f.labels ↔ f.Declares l := by
  cases l <;> simp [labels, Declares]

end LineFacts

namespace Line

/-- What the detectors find in a line, as labels. -/
def Finds (line : String) : Label → Prop
  | .event trigger => event? line.toList = some trigger.toList
  | .function name => function? line.toList = some name.toList
  | .command name => command? line.toList = some name.toList
  | .loop => hasLoop line.toList = true
  | .wait w => (wait? line.toList).map RawWait.wait = some w

/-- A keyword that begins with this letter may open the text. -/
def Opens (letter : Char) (cs : List Char) : Prop :=
  ∃ c ∈ (dropBlanks cs).head?, isLetter letter c = true

section Openings

variable {letter other : Char} {word cs rest : List Char} {line : String} {l : Label}

theorem declares_told : (LineFacts.told line).Declares l ↔ Finds line l := by
  have htext : ∀ (found : Option (List Char)) (text : String),
      found.map String.ofList = some text ↔ found = some text.toList := by
    intro found text
    rw [Option.map_eq_some_iff]
    constructor
    · rintro ⟨cs, hcs, rfl⟩
      rw [hcs, String.toList_ofList]
    · intro hfound
      exact ⟨_, hfound, String.ofList_toList⟩
  cases l with
  | event trigger => exact htext _ _
  | function name => exact htext _ _
  | command name => exact htext _ _
  | loop => exact Iff.rfl
  | wait w => exact Iff.rfl

theorem mem_labels_told : l ∈ (LineFacts.told line).labels ↔ Finds line l :=
  LineFacts.mem_labels.trans declares_told

theorem opens_of_afterWord? (h : afterWord? (letter :: word) (dropBlanks cs) = some rest) :
    Opens letter cs := by
  obtain ⟨head, hcs, hhead⟩ := afterWord?_eq_some.mp h
  cases hhead with
  | cons hletter _ => exact ⟨_, by rw [hcs]; rfl, hletter⟩

theorem opens_of_afterKeyword? {keyword : String} (hkeyword : keyword.toList = letter :: word)
    (h : afterKeyword? keyword (dropBlanks cs) = some rest) : Opens letter cs := by
  obtain ⟨head, blanks, hcs, hhead, -⟩ := afterKeyword?_eq_some.mp h
  rw [hkeyword] at hhead
  cases hhead with
  | cons hletter _ => exact ⟨_, by rw [hcs]; rfl, hletter⟩

theorem opens_of_finds (h : Finds line l) (hletter : (l.front, letter) ∈ Label.openings) :
    Opens letter line.toList := by
  cases l with
  | event trigger =>
    obtain rfl : letter = 'o' := by simpa [Label.front, Label.openings] using hletter
    obtain ⟨raw, hraw, -⟩ := Option.map_eq_some_iff.mp h
    unfold rawTrigger? at hraw
    split at hraw
    · next rest hword => exact opens_of_afterWord? hword
    · cases hraw
  | function name =>
    obtain rfl : letter = 'f' := by simpa [Label.front, Label.openings] using hletter
    change function? line.toList = some name.toList at h
    unfold function? at h
    split at h
    · next rest hword => exact opens_of_afterKeyword? rfl hword
    · cases h
  | command name =>
    obtain rfl : letter = 'c' := by simpa [Label.front, Label.openings] using hletter
    change command? line.toList = some name.toList at h
    unfold command? at h
    split at h
    · next rest hword => exact opens_of_afterKeyword? rfl hword
    · cases h
  | loop => simp [Label.front, Label.openings] at hletter
  | wait w => simp [Label.front, Label.openings] at hletter

theorem Opens.unique (h : Opens letter cs) (hother : Opens other cs)
    (hsmall : letter.isLower = true) (hsmallOther : other.isLower = true) : letter = other := by
  obtain ⟨c, hc, hletter⟩ := h
  obtain ⟨d, hd, hform⟩ := hother
  obtain rfl := Option.some.inj (hc.symm.trans hd)
  exact eq_of_isLetter hletter hform hsmall hsmallOther

end Openings
end Line

namespace ScriptInfo

open Line LineFacts

/-- The labels of a line in words. -/
def labelTexts (info : ScriptInfo) (number : Int) : List String :=
  ((info.labels.get? number).getD []).map Label.text

/-- One of the labels of the line begins so. -/
def LabelledWith (info : ScriptInfo) (front : String) (number : Int) : Prop :=
  ∃ text ∈ info.labelTexts number, front.toList <+: text.toList

instance (info : ScriptInfo) (front : String) (number : Int) :
    Decidable (info.LabelledWith front number) :=
  inferInstanceAs (Decidable (∃ text ∈ info.labelTexts number, front.toList <+: text.toList))

/-- How many of the lines have a label that begins so. -/
def labelledLines (info : ScriptInfo) (front : String) : Nat :=
  (List.range info.lineCount).countP fun n : Nat => info.LabelledWith front ((n : Int) + 1)

/-- Counters, tables and labels of a script tell the same of its lines. -/
structure Consistent (info : ScriptInfo) : Prop where
  ascending : info.loopLines.Pairwise (· < ·)
  within : ∀ number ∈ info.loopLines, 1 ≤ number ∧ number ≤ info.lineCount
  loopLines : ∀ number, number ∈ info.loopLines ↔ "Loop" ∈ info.labelTexts number
  loops : info.loops = info.loopLines.length
  waits : ∀ number told, "Wait: " ++ told ∈ info.labelTexts number ↔
    ∃ w, info.waits.get? number = some w ∧ told = wholeText w.amount ++ " " ++ w.unit
  events : info.events = info.labelledLines "Event: "
  functions : info.functions = info.labelledLines "Function: "
  commands : info.commands = info.labelledLines "Command: "
  keys : ∀ number, number ∈ info.labels.keys ↔
    ∃ (n : Nat) (line : String), number = n + 1 ∧ info.lines[n]? = some line ∧ ∃ l, Finds line l
  /-- The labels of a line are what the detectors find in it, each once and in their order. -/
  labels : ∀ (n : Nat) (line : String) (found : List Label), info.lines[n]? = some line →
    info.labels.get? (n + 1) = some found →
      found ≠ [] ∧ (found.Pairwise fun a b => a.rank < b.rank) ∧ ∀ l, l ∈ found ↔ Finds line l
  exclusive : ∀ number, ∀ front ∈ ["Event: ", "Function: ", "Command: "],
    ∀ other ∈ ["Event: ", "Function: ", "Command: "],
      info.LabelledWith front number → info.LabelledWith other number → front = other

section Rows

variable {path : String} {lines : List String} {number : Int} {text front : String}

theorem get?_labels_eq_some {found : List Label} :
    (ofFacts path lines (lines.map told)).labels.get? number = some found ↔
      ∃ (n : Nat) (line : String), number = n + 1 ∧ lines[n]? = some line ∧
        (told line).labels = found ∧ found ≠ [] := by
  have hseen : ∀ line,
      labels? (told line) = some found ↔ (told line).labels = found ∧ found ≠ [] := by
    intro line
    unfold labels?
    rw [Option.ite_none_left_eq_some, List.isEmpty_iff, Option.some.injEq]
    constructor
    · rintro ⟨hne, rfl⟩
      exact ⟨rfl, hne⟩
    · rintro ⟨rfl, hne⟩
      exact ⟨hne, rfl⟩
  constructor
  · intro h
    rw [Catalog.get?, entries_labels] at h
    obtain ⟨n, f, rfl, hf, hfound⟩ := mem_rowsOf.mp (Catalog.mem_of_lookup h)
    rw [List.getElem?_map, Option.map_eq_some_iff] at hf
    obtain ⟨line, hline, rfl⟩ := hf
    exact ⟨n, line, Int.add_comm 1 n, hline, (hseen line).mp hfound⟩
  · rintro ⟨n, line, rfl, hline, hfound⟩
    rw [get?_labels, List.getElem?_map, hline]
    exact (hseen line).mpr hfound

theorem mem_labelTexts :
    text ∈ (ofFacts path lines (lines.map told)).labelTexts number ↔
      ∃ (n : Nat) (line : String), number = n + 1 ∧ lines[n]? = some line ∧
        ∃ l, Finds line l ∧ l.text = text := by
  have hfound : text ∈ (ofFacts path lines (lines.map told)).labelTexts number ↔
      ∃ found, (ofFacts path lines (lines.map told)).labels.get? number = some found ∧
        text ∈ found.map Label.text := by
    unfold labelTexts
    cases (ofFacts path lines (lines.map told)).labels.get? number <;> simp
  rw [hfound]
  constructor
  · rintro ⟨found, hlabels, htext⟩
    obtain ⟨n, line, rfl, hline, rfl, -⟩ := get?_labels_eq_some.mp hlabels
    obtain ⟨l, hl, rfl⟩ := List.mem_map.mp htext
    exact ⟨n, line, rfl, hline, l, mem_labels_told.mp hl, rfl⟩
  · rintro ⟨n, line, rfl, hline, l, hl, rfl⟩
    have hmem := mem_labels_told.mpr hl
    exact ⟨_, get?_labels_eq_some.mpr ⟨n, line, rfl, hline, rfl, List.ne_nil_of_mem hmem⟩,
      List.mem_map_of_mem hmem⟩

theorem labelledWith_iff (h : front ∈ Label.fronts) :
    (ofFacts path lines (lines.map told)).LabelledWith front number ↔
      ∃ (n : Nat) (line : String), number = n + 1 ∧ lines[n]? = some line ∧
        ∃ l, Finds line l ∧ l.front = front := by
  constructor
  · rintro ⟨text, htext, hprefix⟩
    obtain ⟨n, line, hnumber, hline, l, hl, rfl⟩ := mem_labelTexts.mp htext
    exact ⟨n, line, hnumber, hline, l, hl, (Label.isPrefix_text_iff h).mp hprefix⟩
  · rintro ⟨n, line, hnumber, hline, l, hl, hfront⟩
    exact ⟨l.text, mem_labelTexts.mpr ⟨n, line, hnumber, hline, l, hl, rfl⟩,
      (Label.isPrefix_text_iff h).mpr hfront⟩

/-- Walking along the numbers of the lines is walking along the lines. -/
theorem countP_range {α : Type} (p : α → Bool) (q : Nat → Bool) (xs : List α)
    (h : ∀ (n : Nat) x, xs[n]? = some x → (q n = true ↔ p x = true)) :
    (List.range xs.length).countP q = xs.countP p := by
  induction xs generalizing q with
  | nil => rfl
  | cons x xs ih =>
    have hrest := ih (q ∘ Nat.succ) fun n y hy => h (n + 1) y hy
    rw [List.length_cons, List.range_succ_eq_map, List.countP_cons, List.countP_cons,
      List.countP_map, hrest, Bool.eq_iff_iff.mpr (h 0 x rfl)]

theorem labelledLines_eq (h : front ∈ Label.fronts) (make : String → Label)
    (see : LineFacts → Option String) (hmake : ∀ l : Label, l.front = front ↔ ∃ told, l = make told)
    (hsee : ∀ (f : LineFacts) told, f.Declares (make told) ↔ see f = some told) :
    (ofFacts path lines (lines.map told)).labelledLines front =
      countOf (fun f => (see f).isSome) (lines.map told) := by
  rw [countOf, ← List.countP_eq_length_filter, List.countP_map, Nat.cast_inj, labelledLines]
  apply countP_range
  intro n line hline
  rw [decide_eq_true_eq, labelledWith_iff h, Function.comp_apply, Option.isSome_iff_exists]
  constructor
  · rintro ⟨m, other, hnumber, hother, l, hl, hfront⟩
    obtain rfl : n = m := by omega
    obtain rfl := Option.some.inj (hline.symm.trans hother)
    obtain ⟨told, rfl⟩ := (hmake l).mp hfront
    exact ⟨told, (hsee _ told).mp (declares_told.mpr hl)⟩
  · rintro ⟨told, hfound⟩
    exact ⟨n, line, rfl, hline, make told, declares_told.mp ((hsee _ told).mpr hfound),
      (hmake _).mpr ⟨told, rfl⟩⟩

theorem mem_loopLines_iff :
    number ∈ (ofFacts path lines (lines.map told)).loopLines ↔
      ∃ (n : Nat) (line : String), number = n + 1 ∧ lines[n]? = some line ∧ Finds line .loop := by
  have hseen : ∀ line, loop? (told line) = some () ↔ Finds line .loop := by
    intro line
    unfold loop?
    rw [Option.ite_none_right_eq_some, and_iff_left rfl]
    rfl
  rw [loopLines_eq, List.mem_map]
  constructor
  · rintro ⟨⟨number, ⟨⟩⟩, hrow, rfl⟩
    obtain ⟨n, f, rfl, hf, hloop⟩ := mem_rowsOf.mp hrow
    rw [List.getElem?_map, Option.map_eq_some_iff] at hf
    obtain ⟨line, hline, rfl⟩ := hf
    exact ⟨n, line, Int.add_comm 1 n, hline, (hseen line).mp hloop⟩
  · rintro ⟨n, line, rfl, hline, hloop⟩
    have htold : (lines.map told)[n]? = some (told line) := by
      rw [List.getElem?_map, hline]
      rfl
    have hrow := mem_rowsOf.mpr ⟨n, told line, Int.add_comm n 1, htold, (hseen line).mpr hloop⟩
    exact ⟨(_, ()), hrow, rfl⟩

theorem get?_waits_eq_some {w : Wait} :
    (ofFacts path lines (lines.map told)).waits.get? number = some w ↔
      ∃ (n : Nat) (line : String), number = n + 1 ∧ lines[n]? = some line ∧
        Finds line (.wait w) := by
  constructor
  · intro h
    obtain ⟨n, rfl⟩ := exists_number_of_wait h
    rw [get?_waits, List.getElem?_map, Option.bind_map, Option.bind_eq_some_iff] at h
    obtain ⟨line, hline, hw⟩ := h
    exact ⟨n, line, rfl, hline, hw⟩
  · rintro ⟨n, line, rfl, hline, hw⟩
    rw [get?_waits, List.getElem?_map, hline]
    exact hw

theorem mem_keys_labels :
    number ∈ (ofFacts path lines (lines.map told)).labels.keys ↔
      ∃ (n : Nat) (line : String), number = n + 1 ∧ lines[n]? = some line ∧
        ∃ l, Finds line l := by
  rw [Catalog.mem_keys_iff]
  constructor
  · rintro ⟨found, hfound⟩
    obtain ⟨n, line, hnumber, hline, rfl, hne⟩ := get?_labels_eq_some.mp hfound
    obtain ⟨l, hl⟩ := List.exists_mem_of_ne_nil _ hne
    exact ⟨n, line, hnumber, hline, l, mem_labels_told.mp hl⟩
  · rintro ⟨n, line, hnumber, hline, l, hl⟩
    have hmem := mem_labels_told.mpr hl
    exact ⟨_, get?_labels_eq_some.mpr ⟨n, line, hnumber, hline, rfl, List.ne_nil_of_mem hmem⟩⟩

/-- The first letter of a line tells what it opens. -/
theorem eq_of_labelledWith {other : String} {letter letter' : Char}
    (hletter : (front, letter) ∈ Label.openings) (hletter' : (other, letter') ∈ Label.openings)
    (h : (ofFacts path lines (lines.map told)).LabelledWith front number)
    (h' : (ofFacts path lines (lines.map told)).LabelledWith other number) : front = other := by
  have hfronts : ∀ o ∈ Label.openings, o.1 ∈ Label.fronts := by decide
  have hsmall : ∀ o ∈ Label.openings, o.2.isLower = true := by decide
  have hdiffer : ∀ o ∈ Label.openings, ∀ p ∈ Label.openings, o.2 = p.2 → o.1 = p.1 := by decide
  obtain ⟨n, line, rfl, hline, l, hl, rfl⟩ := (labelledWith_iff (hfronts _ hletter)).mp h
  obtain ⟨m, line', hnumber, hline', l', hl', rfl⟩ := (labelledWith_iff (hfronts _ hletter')).mp h'
  obtain rfl : n = m := by omega
  obtain rfl := Option.some.inj (hline.symm.trans hline')
  have hopens : Opens letter line.toList := opens_of_finds hl hletter
  have hopens' : Opens letter' line.toList := opens_of_finds hl' hletter'
  have hsame := hopens.unique hopens' (hsmall _ hletter) (hsmall _ hletter')
  exact hdiffer _ hletter _ hletter' hsame

theorem consistent_ofFacts : (ofFacts path lines (lines.map told)).Consistent where
  ascending := by
    rw [loopLines_eq]
    exact pairwise_rowsOf ..
  within := by
    intro number hnumber
    obtain ⟨n, line, rfl, hline, -⟩ := mem_loopLines_iff.mp hnumber
    obtain ⟨hlt, -⟩ := List.getElem?_eq_some_iff.mp hline
    change 1 ≤ (n : Int) + 1 ∧ (n : Int) + 1 ≤ (lines.length : Int)
    omega
  loopLines := by
    intro number
    rw [mem_loopLines_iff, mem_labelTexts]
    simp only [Label.text_eq_loop, exists_eq_right]
  loops := rfl
  waits := by
    intro number told
    rw [mem_labelTexts]
    simp only [Label.text_eq_wait, get?_waits_eq_some]
    constructor
    · rintro ⟨n, line, hnumber, hline, l, hl, w, rfl, rfl⟩
      exact ⟨w, ⟨n, line, hnumber, hline, hl⟩, rfl⟩
    · rintro ⟨w, ⟨n, line, hnumber, hline, hl⟩, rfl⟩
      exact ⟨n, line, hnumber, hline, .wait w, hl, w, rfl, rfl⟩
  events := by
    refine (labelledLines_eq (by decide) .event (·.event?) (fun l => ?_) fun _ _ => Iff.rfl).symm
    cases l <;> simp [Label.front]
  functions := by
    refine (labelledLines_eq (by decide) .function (·.function?) (fun l => ?_)
      fun _ _ => Iff.rfl).symm
    cases l <;> simp [Label.front]
  commands := by
    refine (labelledLines_eq (by decide) .command (·.command?) (fun l => ?_)
      fun _ _ => Iff.rfl).symm
    cases l <;> simp [Label.front]
  keys := fun _ => mem_keys_labels
  labels := by
    intro n line found hline hfound
    obtain ⟨m, other, hnumber, hother, rfl, hne⟩ := get?_labels_eq_some.mp hfound
    obtain rfl : n = m := by omega
    obtain rfl := Option.some.inj (hline.symm.trans hother)
    exact ⟨hne, pairwise_labels _, fun l => mem_labels_told⟩
  exclusive := by
    intro number front hfront other hother h hlabelled
    have hopening : ∀ front ∈ ["Event: ", "Function: ", "Command: "],
        ∃ o ∈ Label.openings, o.1 = front := by
      decide
    obtain ⟨o, ho, rfl⟩ := hopening front hfront
    obtain ⟨p, hp, rfl⟩ := hopening other hother
    exact eq_of_labelledWith ho hp h hlabelled

end Rows

/-- Whatever lines are analysed, the facts of the script are told of these lines and fit
together. -/
theorem facts_consistent {room : Nat} {path read : Value} {lines : List String} {info : ScriptInfo}
    (hread : Holds read lines) (h : ofValues room path read = .ok info) :
    info.lines = lines ∧ info.Consistent := by
  obtain ⟨name, rfl⟩ := eq_ofFacts hread h
  exact ⟨rfl, consistent_ofFacts⟩

/-- A line with three labels, one with a function in its text but none declared, one that declares
a function, one with no label and one with two. -/
def mixedLines : List String :=
  ["on loop x: wait 5 ticks", "function on x(): wait 2 seconds", "function join(p: player):", "",
    "\tcommand /warp: loop all"]

theorem facts_consistent_mixedLines :
    ∃ info, ofValues 0 (.path "mixed.sk") (.tuple (mixedLines.map .text)) = .ok info ∧
      info.loopLines = [1, 5] ∧ "Loop" ∈ info.labelTexts 1 ∧ "Wait: 5 ticks" ∈ info.labelTexts 1 ∧
      info.waits.get? 2 = some ⟨2, "seconds"⟩ ∧ info.labelledLines "Event: " = 1 ∧
      info.labelledLines "Function: " = 1 ∧ 4 ∉ info.labels.keys ∧
      ¬ (info.LabelledWith "Event: " 1 ∧ info.LabelledWith "Function: " 1) := by
  have hseen : ((ofValues 0 (.path "mixed.sk") (.tuple (mixedLines.map .text))).toOption.map
      fun info => (info.loopLines, info.waits.get? 1, info.waits.get? 2, info.events,
        info.functions)) =
      some ([1, 5], some ⟨5, "ticks"⟩, some ⟨2, "seconds"⟩, 1, 1) := by
    decide +kernel
  obtain ⟨info, hinfo, hfacts⟩ := Option.map_eq_some_iff.mp hseen
  obtain ⟨hloops, hfacts⟩ := Prod.mk.inj hfacts
  obtain ⟨hfirst, hfacts⟩ := Prod.mk.inj hfacts
  obtain ⟨hsecond, hfacts⟩ := Prod.mk.inj hfacts
  obtain ⟨hevents, hfunctions⟩ := Prod.mk.inj hfacts
  have hok := toOption_eq_some.mp hinfo
  obtain ⟨hlines, hconsistent⟩ := facts_consistent (.tuple mixedLines) hok
  refine ⟨info, hok, hloops, ?_, ?_, hsecond, ?_, ?_, ?_, ?_⟩
  · apply (hconsistent.loopLines 1).mp
    simp [hloops]
  · exact (hconsistent.waits 1 "5 ticks").mpr ⟨_, hfirst, by decide⟩
  · exact Int.ofNat.inj (hconsistent.events.symm.trans hevents)
  · exact Int.ofNat.inj (hconsistent.functions.symm.trans hfunctions)
  · intro hkey
    obtain ⟨n, line, hnumber, hline, l, hl⟩ := (hconsistent.keys 4).mp hkey
    obtain rfl : n = 3 := by omega
    rw [hlines] at hline
    obtain rfl := Option.some.inj hline
    have hnone : (LineFacts.told "").labels = [] := by decide +kernel
    rw [← mem_labels_told, hnone] at hl
    exact List.not_mem_nil hl
  · rintro ⟨hevent, hfunction⟩
    have heq := hconsistent.exclusive 1 "Event: " (by simp) "Function: " (by simp) hevent hfunction
    simp at heq

end ScriptInfo
end ScriptProfiling
