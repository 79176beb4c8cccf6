import ScriptProfiling.Proofs.Script.Declared
import ScriptProfiling.Proofs.Text.Lines

/-!
# Accesses to variables

A line falls into segments, each a text up to a closing brace and with it, and into a remainder
in which no brace closes. A segment holds an access if an opening brace stands in it elsewhere
than directly before the closing one. The reader counts these segments, and a search that goes on
behind each access it has found counts as many.
-/
namespace ScriptProfiling
namespace Line

/-- Text that ends with its only closing brace. -/
def IsSegment (s : List Char) : Prop := ∃ content, s = content ++ ['\x7d'] ∧ '\x7d' ∉ content

/-- A text cut behind each closing brace. -/
structure Segmentation (cs : List Char) where
  segments : List (List Char)
  remainder : List Char
  text : cs = segments.flatten ++ remainder
  isSegment : ∀ s ∈ segments, IsSegment s
  unclosed : '\x7d' ∉ remainder

/-- An opening brace stands elsewhere than directly before the closing one. -/
def HoldsAccess (s : List Char) : Prop := ∃ i, s[i]? = some '\x7b' ∧ i + 2 ≠ s.length

section Segments

variable {cs content rest : List Char} {c : Char}

theorem holdsAccess_iff : HoldsAccess (content ++ ['\x7d']) ↔ '\x7b' ∈ content.dropLast := by
  rw [List.mem_iff_getElem?]
  constructor
  · rintro ⟨i, hi, hne⟩
    have hlt : i < content.length := by
      by_contra hle
      rw [List.getElem?_append_right (by omega), List.getElem?_singleton] at hi
      split_ifs at hi
      exact absurd hi (by decide)
    rw [List.getElem?_append_left hlt] at hi
    rw [List.length_append, List.length_singleton] at hne
    refine ⟨i, ?_⟩
    rw [List.getElem?_dropLast, if_pos (by omega), hi]
  · rintro ⟨i, hi⟩
    rw [List.getElem?_dropLast] at hi
    split_ifs at hi with hlt
    refine ⟨i, ?_, ?_⟩
    · rw [List.getElem?_append_left (by omega), hi]
    · rw [List.length_append, List.length_singleton]
      omega

instance (s : List Char) : Decidable (HoldsAccess s) :=
  decidable_of_iff (∃ i ∈ List.range s.length, s[i]? = some '\x7b' ∧ i + 2 ≠ s.length) <| by
    constructor
    · rintro ⟨i, -, hi⟩
      exact ⟨i, hi⟩
    · rintro ⟨i, hi, hne⟩
      obtain ⟨hlt, -⟩ := List.getElem?_eq_some_iff.mp hi
      exact ⟨i, List.mem_range.mpr hlt, hi, hne⟩

end Segments

section Counting

variable {cs content rest : List Char} {state : Brace} {count : Nat}

theorem countVariables_of_notMem (h : '\x7d' ∉ cs) : countVariables state count cs = count := by
  induction cs generalizing state with
  | nil => rfl
  | cons c cs ih =>
    rw [List.mem_cons, not_or] at h
    have hc : c ≠ '\x7d' := Ne.symm h.1
    cases state <;> simp [countVariables, hc, ih h.2]

theorem countVariables_add (more : Nat) :
    countVariables state (count + more) cs = countVariables state count cs + more := by
  induction cs generalizing state count with
  | nil => rfl
  | cons c cs ih =>
    cases state with
    | outside => exact ih
    | opened => exact ih
    | inside =>
      simp only [countVariables]
      split
      · rw [Nat.add_right_comm, ih]
      · exact ih

theorem countVariables_inside (h : '\x7d' ∉ content) :
    countVariables .inside count (content ++ '\x7d' :: rest) =
      countVariables .outside (count + 1) rest := by
  induction content with
  | nil => simp [countVariables]
  | cons c content ih =>
    rw [List.mem_cons, not_or] at h
    rw [List.cons_append, countVariables, if_neg (Ne.symm h.1)]
    exact ih h.2

/-- Directly behind the opening brace a closing one completes nothing. -/
theorem countVariables_opened (h : '\x7d' ∉ content) :
    countVariables .opened count (content ++ '\x7d' :: rest) =
      countVariables .outside (if content = [] then count else count + 1) rest := by
  cases content with
  | nil => simp [countVariables]
  | cons c content =>
    rw [List.mem_cons, not_or] at h
    rw [List.cons_append, countVariables, if_neg (Ne.symm h.1), if_neg (List.cons_ne_nil c content)]
    exact countVariables_inside h.2

/-- The first opening brace that is not the last character before the closing one is decisive. -/
theorem countVariables_outside (h : '\x7d' ∉ content) :
    countVariables .outside count (content ++ '\x7d' :: rest) =
      countVariables .outside (if '\x7b' ∈ content.dropLast then count + 1 else count) rest := by
  induction content with
  | nil => simp [countVariables]
  | cons c content ih =>
    rw [List.mem_cons, not_or] at h
    rw [List.cons_append, countVariables]
    by_cases hc : c = '\x7b'
    · rw [if_pos hc, countVariables_opened h.2]
      cases content <;> simp [hc]
    · rw [if_neg hc, ih h.2]
      cases content <;> simp [Ne.symm hc]

theorem countVariables_closed (cs tail : List Char) :
    countVariables state count (cs ++ '\x7d' :: tail) =
      countVariables .outside (countVariables state count (cs ++ ['\x7d'])) tail := by
  induction cs generalizing state count with
  | nil => cases state <;> simp [countVariables]
  | cons c cs ih =>
    cases state with
    | outside => exact ih
    | opened => exact ih
    | inside =>
      simp only [List.cons_append, countVariables]
      split
      · exact ih
      · exact ih

theorem variableAccesses_of_notMem (h : '\x7d' ∉ cs) : variableAccesses cs = 0 :=
  countVariables_of_notMem h

/-- A segment counts by itself. -/
theorem variableAccesses_segment (h : '\x7d' ∉ content) :
    variableAccesses (content ++ '\x7d' :: rest) =
      (if HoldsAccess (content ++ ['\x7d']) then 1 else 0) + variableAccesses rest := by
  unfold variableAccesses
  rw [countVariables_outside h, if_congr holdsAccess_iff rfl rfl]
  split
  · rw [Nat.zero_add, ← Nat.zero_add 1, countVariables_add]
    omega
  · exact (Nat.zero_add _).symm

end Counting

namespace Segmentation

variable {cs rest : List Char}

/-- How many of the segments hold an access. -/
def accesses (cut : Segmentation cs) : Nat := cut.segments.countP HoldsAccess

theorem accesses_eq (cut : Segmentation cs) : cut.accesses = variableAccesses cs := by
  obtain ⟨segments, remainder, rfl, hsegments, hunclosed⟩ := cut
  unfold accesses
  dsimp only
  induction segments with
  | nil => exact (variableAccesses_of_notMem hunclosed).symm
  | cons s segments ih =>
    obtain ⟨⟨content, rfl, hcontent⟩, hothers⟩ := List.forall_mem_cons.mp hsegments
    have htext : (content ++ ['\x7d']) ++ segments.flatten ++ remainder =
        content ++ '\x7d' :: (segments.flatten ++ remainder) := by simp
    rw [List.flatten_cons, htext, variableAccesses_segment hcontent, ← ih hothers,
      List.countP_cons]
    simp only [decide_eq_true_eq]
    omega

theorem splitAt_eq (cut : Segmentation cs) :
    splitAt '\x7d' cs = cut.segments.map List.dropLast ++ [cut.remainder] := by
  obtain ⟨segments, remainder, rfl, hsegments, hunclosed⟩ := cut
  dsimp only
  induction segments with
  | nil => exact splitAt_eq_singleton hunclosed
  | cons s segments ih =>
    obtain ⟨⟨content, rfl, hcontent⟩, hothers⟩ := List.forall_mem_cons.mp hsegments
    have htext : (content ++ ['\x7d']) ++ segments.flatten ++ remainder =
        content ++ '\x7d' :: (segments.flatten ++ remainder) := by simp
    rw [List.flatten_cons, htext, splitAt_append_cons, splitAt_eq_singleton hcontent, ih hothers]
    simp

theorem segments_eq (cut : Segmentation cs) :
    cut.segments = (splitAt '\x7d' cs).dropLast.map (· ++ ['\x7d']) := by
  rw [cut.splitAt_eq, List.dropLast_concat, List.map_map]
  symm
  rw [List.map_congr_left, List.map_id]
  intro s hs
  obtain ⟨content, rfl, -⟩ := cut.isSegment s hs
  simp

/-- A text is cut in one way only. -/
theorem eq (cut other : Segmentation cs) : cut = other := by
  have hremainder : [cut.remainder] = [other.remainder] :=
    (List.append_inj' (cut.splitAt_eq.symm.trans other.splitAt_eq) rfl).2
  have hsegments : cut.segments = other.segments := cut.segments_eq.trans other.segments_eq.symm
  cases cut
  cases other
  obtain rfl := hsegments
  obtain rfl := List.singleton_injective hremainder
  rfl

end Segmentation

theorem flatten_pieces (sep : Char) (pieces : List (List Char)) (last : List Char) :
    sep :: ((pieces.map (· ++ [sep])).flatten ++ last) = (pieces ++ [last]).flatMap (sep :: ·) := by
  induction pieces with
  | nil => simp
  | cons piece pieces ih =>
    rw [List.cons_append, List.flatMap_cons, ← ih]
    simp

/-- Each text is cut at its closing braces. -/
def segmentation (cs : List Char) : Segmentation cs where
  segments := (splitAt '\x7d' cs).dropLast.map (· ++ ['\x7d'])
  remainder := (splitAt '\x7d' cs).getLast (splitAt_ne_nil '\x7d' cs)
  text := by
    have hpieces := flatten_pieces '\x7d' (splitAt '\x7d' cs).dropLast
      ((splitAt '\x7d' cs).getLast (splitAt_ne_nil '\x7d' cs))
    rw [List.dropLast_append_getLast, flatMap_splitAt] at hpieces
    exact (List.cons.inj hpieces).2.symm
  isSegment := by
    intro s hs
    obtain ⟨piece, hpiece, rfl⟩ := List.mem_map.mp hs
    exact ⟨piece, rfl, not_mem_of_mem_splitAt (List.dropLast_subset _ hpiece)⟩
  unclosed := not_mem_of_mem_splitAt (List.getLast_mem _)

/-- How many accesses a search from the left finds. Behind an access it goes on after the closing
brace, and a place at which none begins is passed over. -/
inductive Search : List Char → Nat → Prop where
  | done : Search [] 0
  | found {inner rest : List Char} {n : Nat} (hne : inner ≠ []) (hinner : '\x7d' ∉ inner)
    (hrest : Search rest n) : Search ('\x7b' :: (inner ++ '\x7d' :: rest)) (n + 1)
  | passed {c : Char} {cs : List Char} {n : Nat}
    (hnone : ∀ inner rest, c :: cs = '\x7b' :: (inner ++ '\x7d' :: rest) → '\x7d' ∉ inner →
      inner = [])
    (hrest : Search cs n) : Search (c :: cs) n

section Searching

variable {cs : List Char} {n : Nat}

theorem variableAccesses_access {inner rest : List Char} (front : List Char)
    (hfront : '\x7d' ∉ front)
    (hinner : '\x7d' ∉ inner) (hne : inner ≠ []) :
    variableAccesses (front ++ '\x7b' :: (inner ++ '\x7d' :: rest)) =
      variableAccesses rest + 1 := by
  have hcontent : '\x7d' ∉ front ++ '\x7b' :: inner := by
    simp [hfront, hinner]
  have htext : front ++ '\x7b' :: (inner ++ '\x7d' :: rest) =
      (front ++ '\x7b' :: inner) ++ '\x7d' :: rest := by simp
  have hholds : HoldsAccess ((front ++ '\x7b' :: inner) ++ ['\x7d']) := by
    rw [holdsAccess_iff, List.dropLast_append_cons]
    cases inner with
    | nil => exact absurd rfl hne
    | cons c inner => simp
  rw [htext, variableAccesses_segment hcontent, if_pos hholds, Nat.add_comm]

theorem variableAccesses_empty {front rest : List Char} (hopen : '\x7b' ∉ front)
    (hclose : '\x7d' ∉ front) :
    variableAccesses (front ++ '\x7b' :: '\x7d' :: rest) = variableAccesses rest := by
  have hcontent : '\x7d' ∉ front ++ ['\x7b'] := by simp [hclose]
  have hempty : ¬ HoldsAccess ((front ++ ['\x7b']) ++ ['\x7d']) := by
    rw [holdsAccess_iff, List.dropLast_concat]
    exact hopen
  rw [List.append_cons, variableAccesses_segment hcontent, if_neg hempty, Nat.zero_add]

theorem variableAccesses_close (cs : List Char) :
    variableAccesses ('\x7d' :: cs) = variableAccesses cs := rfl

theorem variableAccesses_passed {c : Char}
    (hnone : ∀ inner rest, c :: cs = '\x7b' :: (inner ++ '\x7d' :: rest) → '\x7d' ∉ inner →
      inner = []) :
    variableAccesses (c :: cs) = variableAccesses cs := by
  by_cases hclosed : '\x7d' ∈ cs
  · obtain ⟨content, rest, rfl, hcontent⟩ := List.eq_append_cons_of_mem hclosed
    by_cases hc : c = '\x7d'
    · rw [hc, variableAccesses_close]
    · have hboth : '\x7d' ∉ c :: content := by simp [Ne.symm hc, hcontent]
      rw [← List.cons_append, variableAccesses_segment hboth, variableAccesses_segment hcontent]
      congr 1
      refine if_congr ?_ rfl rfl
      rw [holdsAccess_iff, holdsAccess_iff]
      cases content with
      | nil => simp
      | cons d content =>
        have hc : '\x7b' ≠ c := by
          rintro rfl
          exact List.cons_ne_nil _ _ (hnone (d :: content) rest rfl hcontent)
        simp [hc]
  · by_cases hc : c = '\x7d'
    · rw [hc, variableAccesses_close]
    · rw [variableAccesses_of_notMem hclosed, variableAccesses_of_notMem]
      simp [Ne.symm hc, hclosed]

theorem exists_search (cs : List Char) : ∃ n, Search cs n := by
  induction hlength : cs.length using Nat.strong_induction_on generalizing cs with
  | _ length ih =>
    cases cs with
    | nil => exact ⟨0, .done⟩
    | cons c cs =>
      by_cases hnone : ∀ inner rest, c :: cs = '\x7b' :: (inner ++ '\x7d' :: rest) →
          '\x7d' ∉ inner → inner = []
      · obtain ⟨n, hn⟩ := ih cs.length (by rw [← hlength]; exact Nat.lt_succ_self _) cs rfl
        exact ⟨n, .passed hnone hn⟩
      · push Not at hnone
        obtain ⟨inner, rest, htext, hinner, hne⟩ := hnone
        have hshort : rest.length < length := by
          rw [← hlength, htext, List.length_cons, List.length_append, List.length_cons]
          omega
        obtain ⟨n, hn⟩ := ih rest.length hshort rest rfl
        rw [htext]
        exact ⟨n + 1, .found hne hinner hn⟩

theorem Search.eq_variableAccesses (h : Search cs n) : n = variableAccesses cs := by
  induction h with
  | done => rfl
  | found hne hinner _ ih =>
    rw [ih]
    exact (variableAccesses_access [] List.not_mem_nil hinner hne).symm
  | passed hnone _ ih => rw [ih, variableAccesses_passed hnone]

theorem search_iff : Search cs n ↔ n = variableAccesses cs := by
  constructor
  · exact Search.eq_variableAccesses
  · rintro rfl
    obtain ⟨n, hn⟩ := exists_search cs
    rwa [← hn.eq_variableAccesses]

end Searching
end Line

namespace ScriptInfo

open Line LineFacts

variable {room : Nat} {path read : Value} {lines : List String} {info : ScriptInfo}

/-- The accesses of a script are the segments of its lines that hold one. A line is cut into
segments in one way, and a search from the left finds as many accesses as segments hold one.
Braces that open behind the first one of an access count once with it, a pair with nothing in it
counts nothing and leaves what follows as it is, and nothing counts behind the last closing
brace. -/
theorem accesses_segmented (hread : Holds read lines) (h : ofValues room path read = .ok info) :
    info.variableAccesses =
      ((lines.map fun line => (segmentation line.toList).accesses).sum : Nat) ∧
    ∀ cs : List Char,
      (∀ cut : Segmentation cs, cut = segmentation cs) ∧
      (∀ n, Search cs n ↔ n = (segmentation cs).accesses) ∧
      (∀ front inner : List Char, '\x7d' ∉ front → '\x7d' ∉ inner → inner ≠ [] →
        (segmentation (front ++ '\x7b' :: (inner ++ '\x7d' :: cs))).accesses =
          (segmentation cs).accesses + 1) ∧
      (∀ front : List Char, '\x7b' ∉ front → '\x7d' ∉ front →
        (segmentation (front ++ '\x7b' :: '\x7d' :: cs)).accesses = (segmentation cs).accesses) ∧
      ('\x7d' ∉ cs → (segmentation cs).accesses = 0 ∧ ∀ front : List Char,
        (segmentation (front ++ '\x7d' :: cs)).accesses =
          (segmentation (front ++ ['\x7d'])).accesses) := by
  obtain ⟨name, rfl⟩ := eq_ofFacts hread h
  refine ⟨?_, fun cs => ?_⟩
  · rw [variableAccesses_eq, List.map_map, Nat.cast_list_sum, List.map_map]
    congr 1
    apply List.map_congr_left
    intro line _
    simp [told, Segmentation.accesses_eq]
  simp only [Segmentation.accesses_eq]
  refine ⟨fun cut => cut.eq _, fun n => search_iff, ?_, ?_, ?_⟩
  · intro front inner hfront hinner hne
    exact variableAccesses_access front hfront hinner hne
  · intro front hopen hclose
    exact variableAccesses_empty hopen hclose
  · intro hclose
    refine ⟨variableAccesses_of_notMem hclose, fun front => ?_⟩
    unfold Line.variableAccesses
    rw [countVariables_closed, countVariables_of_notMem hclose]

/-- Nested braces, an empty pair before an access, accesses over a line feed, and braces that
stay open. -/
def bracedLines : List String :=
  ["set \x7ba.\x7bb\x7d\x7d to \x7b\x7d\x7bc\x7d", "\x7b\x7b\x7d \x7d \x7bx\ny\x7d \x7bz", "no"]

theorem accesses_segmented_bracedLines :
    ∃ info, ofValues 0 (.text "braced.sk") (.list (bracedLines.map .text)) = .ok info ∧
      info.variableAccesses = 4 ∧ Search (bracedLines[0]).toList 2 ∧
      Search (bracedLines[1]).toList 2 := by
  have hok : (ofValues 0 (.text "braced.sk") (.list (bracedLines.map .text))).isOk = true := by
    decide +kernel
  obtain ⟨info, hinfo⟩ := isOk_iff.mp hok
  obtain ⟨haccesses, hlines⟩ := accesses_segmented (.list bracedLines) hinfo
  obtain ⟨-, hfirst, -⟩ := hlines (bracedLines[0]).toList
  obtain ⟨-, hsecond, -⟩ := hlines (bracedLines[1]).toList
  have hcounts : bracedLines.map (fun line => (segmentation line.toList).accesses) = [2, 2, 0] := by
    decide +kernel
  refine ⟨info, hinfo, ?_, (hfirst 2).mpr ?_, (hsecond 2).mpr ?_⟩
  · rw [haccesses, hcounts]
    rfl
  · exact (List.cons.inj hcounts).1.symm
  · exact (List.cons.inj (List.cons.inj hcounts).2).1.symm

end ScriptInfo
end ScriptProfiling
