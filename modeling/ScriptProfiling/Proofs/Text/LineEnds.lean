import ScriptProfiling.Text.Lines
import Mathlib.Data.List.Basic

/-!
# Line ends

What it is to cut a text at its line ends, told without a scanner, and that `cutLines` does so.
Scripts have more line ends than other text files. Each of those that only scripts have puts the
numbers of all later lines up by one.
-/
namespace ScriptProfiling

/-- A line end in front of some text. A carriage return takes a line feed behind it along. -/
inductive IsLineEnd (isEnd : Char → Bool) : List Char → List Char → Prop
  | pair (rest : List Char) : IsLineEnd isEnd ['\r', '\n'] rest
  | single {c : Char} {rest : List Char} (h : isEnd c = true)
      (hpair : ¬(c = '\r' ∧ rest.head? = some '\n')) : IsLineEnd isEnd [c] rest

/-- A text is cut into lines: none of them holds what ends a line, and a line end follows each of
them but a last one, which is not empty then. -/
inductive CutInto (isEnd : Char → Bool) : List Char → List (List Char) → Prop
  | nil : CutInto isEnd [] []
  | last {line : List Char} (hne : line ≠ []) (hline : ∀ c ∈ line, isEnd c = false) :
      CutInto isEnd line [line]
  | line {line lineEnd rest : List Char} {lines : List (List Char)}
      (hline : ∀ c ∈ line, isEnd c = false) (hend : IsLineEnd isEnd lineEnd rest)
      (hrest : CutInto isEnd rest lines) : CutInto isEnd (line ++ (lineEnd ++ rest)) (line :: lines)

section Cut

variable {isEnd : Char → Bool} {line lineEnd rest cs : List Char} {lines : List (List Char)}
  {c : Char}

theorem cutLines_cons_of_not (hreturn : isEnd '\r' = true) (hc : isEnd c = false)
    (done cs : List Char) : cutLines isEnd done (c :: cs) = cutLines isEnd (c :: done) cs := by
  have hne : c ≠ '\r' := by
    rintro rfl
    rw [hreturn] at hc
    cases hc
  rw [cutLines, if_neg (by simp [hc])]
  intro _ h
  exact absurd h hne

theorem cutLines_append (hreturn : isEnd '\r' = true) (hline : ∀ c ∈ line, isEnd c = false)
    (done rest : List Char) :
    cutLines isEnd done (line ++ rest) = cutLines isEnd (line.reverse ++ done) rest := by
  induction line generalizing done with
  | nil => rfl
  | cons c line ih =>
    obtain ⟨hc, hline⟩ := List.forall_mem_cons.mp hline
    rw [List.cons_append, cutLines_cons_of_not hreturn hc, ih hline, List.reverse_cons,
      List.append_assoc, List.singleton_append]

theorem cutLines_lineEnd (h : IsLineEnd isEnd lineEnd rest) (done : List Char) :
    cutLines isEnd done (lineEnd ++ rest) = done.reverse :: cutLines isEnd [] rest := by
  cases h with
  | pair rest => rfl
  | @single c rest h hpair =>
    rw [List.singleton_append, cutLines, if_pos h]
    rintro cs rfl rfl
    exact hpair ⟨rfl, rfl⟩

theorem cutLines_cons_of_end (hc : isEnd c = true) (hne : c ≠ '\r') (done cs : List Char) :
    cutLines isEnd done (c :: cs) = done.reverse :: cutLines isEnd [] cs :=
  cutLines_lineEnd (.single hc fun h => hne h.1) done

theorem CutInto.eq_cutLines (hreturn : isEnd '\r' = true) (h : CutInto isEnd cs lines) :
    cutLines isEnd [] cs = lines := by
  induction h with
  | nil => rfl
  | @last line hne hline =>
    have hcut := cutLines_append hreturn hline [] []
    rw [List.append_nil, List.append_nil] at hcut
    rw [hcut, cutLines, List.isEmpty_reverse, if_neg (by simpa using hne), List.reverse_reverse]
  | line hline hend _ ih =>
    rw [cutLines_append hreturn hline, cutLines_lineEnd hend, ih, List.append_nil,
      List.reverse_reverse]

/-- The induction goes over the text ahead; of the line before it no character ends a line. -/
theorem cutInto_cutLines (done cs : List Char) (hdone : ∀ c ∈ done, isEnd c = false) :
    CutInto isEnd (done.reverse ++ cs) (cutLines isEnd done cs) := by
  have hline : ∀ c ∈ done.reverse, isEnd c = false := fun c hc => hdone c (List.mem_reverse.mp hc)
  fun_induction cutLines isEnd done cs with
  | case1 done hempty =>
    obtain rfl := List.isEmpty_iff.mp hempty
    exact .nil
  | case2 done hempty =>
    rw [List.append_nil]
    exact .last (by simpa using hempty) hline
  | case3 done cs ih => exact .line hline (.pair cs) (ih (by simp) (by simp))
  | case4 done c cs hpair hc ih =>
    have hend : IsLineEnd isEnd [c] cs := by
      refine .single hc ?_
      rintro ⟨rfl, hhead⟩
      obtain ⟨rest, rfl⟩ := List.head?_eq_some_iff.mp hhead
      exact hpair rest rfl rfl
    exact .line hline hend (ih (by simp) (by simp))
  | case5 done c cs hpair hc ih =>
    have hlonger : ∀ d ∈ c :: done, isEnd d = false :=
      List.forall_mem_cons.mpr ⟨by simpa using hc, hdone⟩
    have hcut := ih hlonger (by simpa [or_comm] using hlonger)
    rwa [List.reverse_cons, List.append_assoc, List.singleton_append] at hcut

theorem cutInto_iff (hreturn : isEnd '\r' = true) :
    CutInto isEnd cs lines ↔ cutLines isEnd [] cs = lines := by
  constructor
  · exact CutInto.eq_cutLines hreturn
  · rintro rfl
    exact cutInto_cutLines [] cs (by simp)

theorem CutInto.notMem (h : CutInto isEnd cs lines) :
    ∀ line ∈ lines, ∀ c ∈ line, isEnd c = false := by
  induction h with
  | nil => simp
  | last _ hline => simpa using hline
  | line hline _ _ ih => exact List.forall_mem_cons.mpr ⟨hline, ih⟩

theorem CutInto.mem_line (hreturn : isEnd '\r' = true) (hfeed : isEnd '\n' = true)
    (h : CutInto isEnd cs lines) (hc : c ∈ cs) (hnot : isEnd c = false) :
    ∃ line ∈ lines, c ∈ line := by
  induction h with
  | nil => cases hc
  | last _ _ => exact ⟨_, List.mem_singleton_self _, hc⟩
  | @line line lineEnd rest lines _ hend _ ih =>
    rcases List.mem_append.mp hc with hc | hc
    · exact ⟨line, List.mem_cons_self, hc⟩
    rcases List.mem_append.mp hc with hc | hc
    · have hends : isEnd c = true := by
        cases hend with
        | pair => rcases List.mem_pair.mp hc with rfl | rfl <;> assumption
        | single h _ => rwa [List.mem_singleton.mp hc]
      rw [hends] at hnot
      cases hnot
    · obtain ⟨later, hlater, hc⟩ := ih hc
      exact ⟨later, List.mem_cons_of_mem _ hlater, hc⟩

theorem cutLines_congr {isEnd' : Char → Bool} (h : ∀ c ∈ cs, isEnd c = isEnd' c)
    (done : List Char) :
    cutLines isEnd done cs = cutLines isEnd' done cs := by
  fun_induction cutLines isEnd done cs with
  | case1 done hempty => rw [cutLines, if_pos hempty]
  | case2 done hempty => rw [cutLines, if_neg hempty]
  | case3 done cs ih => rw [cutLines, ih fun c hc => h c (by simp [hc])]
  | case4 done c cs hpair hc ih =>
    rw [h c List.mem_cons_self] at hc
    rw [cutLines, if_pos hc, ih fun d hd => h d (List.mem_cons_of_mem _ hd)]
    exact hpair
  | case5 done c cs hpair hc ih =>
    rw [h c List.mem_cons_self] at hc
    rw [cutLines, if_neg hc, ih fun d hd => h d (List.mem_cons_of_mem _ hd)]
    exact hpair

end Cut

/-- What ends the lines of scripts, but not those of other text files. -/
def endsScriptOnly (c : Char) : Bool := endsScriptLine c && !endsFileLine c

/-- What stands in a line of a file before the first line end that only scripts have. -/
def beginning (line : List Char) : List Char := line.takeWhile (!endsScriptOnly ·)

/-- How many line ends that only scripts have stand in the first lines of a file. -/
def shiftBefore (lines : List (List Char)) (k : Nat) : Nat :=
  (lines.take k).flatten.countP endsScriptOnly

section Scripts

variable {cs line lineEnd rest : List Char} {lines : List (List Char)} {c : Char}

theorem endsScriptLine_of_endsFileLine (h : endsFileLine c = true) : endsScriptLine c = true := by
  rw [endsScriptLine, h, Bool.true_or]

theorem endsScriptLine_eq_endsScriptOnly (h : endsFileLine c = false) :
    endsScriptLine c = endsScriptOnly c := by
  rw [endsScriptOnly, h, Bool.not_false, Bool.and_true]

@[simp]
theorem beginning_nil : beginning [] = [] := List.takeWhile_nil

theorem beginning_cons_of_end (h : endsScriptOnly c = true) (line : List Char) :
    beginning (c :: line) = [] :=
  List.takeWhile_cons_of_neg (by simp [h])

theorem beginning_cons_of_not (h : endsScriptOnly c = false) (line : List Char) :
    beginning (c :: line) = c :: beginning line :=
  List.takeWhile_cons_of_pos (by simp [h])

@[simp]
theorem shiftBefore_zero (lines : List (List Char)) : shiftBefore lines 0 = 0 := by
  rw [shiftBefore, List.take_zero, List.flatten_nil, List.countP_nil]

theorem shiftBefore_cons (line : List Char) (lines : List (List Char)) (k : Nat) :
    shiftBefore (line :: lines) (k + 1) = line.countP endsScriptOnly + shiftBefore lines k := by
  rw [shiftBefore, List.take_succ_cons, List.flatten_cons, List.countP_append, shiftBefore]

theorem ne_return_of_not_end (h : endsFileLine c = false) : c ≠ '\r' := by
  rintro rfl
  cases h

theorem IsLineEnd.of_fileLine (h : IsLineEnd endsFileLine lineEnd rest) :
    IsLineEnd endsScriptLine lineEnd rest := by
  cases h with
  | pair => exact .pair rest
  | single hc hpair => exact .single (endsScriptLine_of_endsFileLine hc) hpair

theorem cutLines_beginning (hline : ∀ c ∈ line, endsFileLine c = false) (done : List Char)
    (hne : done ++ line ≠ []) :
    (cutLines endsScriptLine done line).head? = some (done.reverse ++ beginning line) := by
  induction line generalizing done with
  | nil =>
    rw [List.append_nil] at hne
    rw [cutLines, if_neg (by simpa using hne)]
    simp
  | cons c line ih =>
    obtain ⟨hc, hline⟩ := List.forall_mem_cons.mp hline
    have honly := endsScriptLine_eq_endsScriptOnly hc
    cases hends : endsScriptLine c with
    | true =>
      rw [cutLines_cons_of_end hends (ne_return_of_not_end hc), List.head?_cons,
        beginning_cons_of_end (honly ▸ hends), List.append_nil]
    | false =>
      rw [cutLines_cons_of_not rfl hends, ih hline (c :: done) (List.cons_ne_nil _ _),
        beginning_cons_of_not (honly ▸ hends), List.reverse_cons, List.append_assoc,
        List.singleton_append]

/-- A script reader makes one line more of a line for each line end that only scripts have. -/
theorem cutLines_fileLine (hline : ∀ c ∈ line, endsFileLine c = false)
    (hend : IsLineEnd endsFileLine lineEnd rest) (done : List Char) :
    ∃ more, cutLines endsScriptLine done (line ++ (lineEnd ++ rest)) =
        (done.reverse ++ beginning line) :: more ++ scriptLines rest ∧
      more.length = line.countP endsScriptOnly := by
  induction line generalizing done with
  | nil => exact ⟨[], by simp [cutLines_lineEnd hend.of_fileLine, scriptLines], rfl⟩
  | cons c line ih =>
    obtain ⟨hc, hline⟩ := List.forall_mem_cons.mp hline
    have honly := endsScriptLine_eq_endsScriptOnly hc
    cases hends : endsScriptLine c with
    | true =>
      obtain ⟨more, hcut, hlength⟩ := ih hline []
      refine ⟨beginning line :: more, ?_, ?_⟩
      · rw [List.cons_append, cutLines_cons_of_end hends (ne_return_of_not_end hc), hcut,
          beginning_cons_of_end (honly ▸ hends), List.append_nil, List.reverse_nil,
          List.nil_append, List.cons_append, List.cons_append, List.cons_append]
      · rw [List.countP_cons_of_pos (honly ▸ hends), List.length_cons, hlength]
    | false =>
      obtain ⟨more, hcut, hlength⟩ := ih hline (c :: done)
      refine ⟨more, ?_, ?_⟩
      · rw [List.cons_append, cutLines_cons_of_not rfl hends, hcut,
          beginning_cons_of_not (honly ▸ hends), List.reverse_cons, List.append_assoc,
          List.singleton_append]
      · rw [List.countP_cons_of_neg (by simp [← honly, hends]), hlength]

/-- The beginning of each line of a file is a line of the script, and its number is greater by as
many line ends as only scripts have in the lines before it. -/
theorem CutInto.getElem?_scriptLines (h : CutInto endsFileLine cs lines) {k : Nat}
    (hk : lines[k]? = some line) :
    (scriptLines cs)[k + shiftBefore lines k]? = some (beginning line) := by
  induction h generalizing k with
  | nil => simp at hk
  | @last only hne hline =>
    cases k with
    | zero =>
      obtain rfl := Option.some.inj hk
      rw [shiftBefore_zero, ← List.head?_eq_getElem?, scriptLines,
        cutLines_beginning hline [] hne, List.reverse_nil, List.nil_append]
    | succ k => simp at hk
  | @line first lineEnd rest lines hline hend _ ih =>
    obtain ⟨more, hcut, hlength⟩ := cutLines_fileLine hline hend []
    rw [scriptLines, hcut, List.reverse_nil, List.nil_append]
    cases k with
    | zero =>
      obtain rfl := Option.some.inj hk
      simp
    | succ k =>
      have hrest := ih hk
      have hplace : k + 1 + shiftBefore (first :: lines) (k + 1) =
          (beginning first :: more).length + (k + shiftBefore lines k) := by
        rw [shiftBefore_cons, ← hlength, List.length_cons]
        omega
      rw [hplace, List.getElem?_append_right (Nat.le_add_right _ _), Nat.add_sub_cancel_left]
      exact hrest

theorem scriptLines_eq_fileLines_iff :
    scriptLines cs = fileLines cs ↔ ∀ c ∈ cs, endsScriptOnly c = false := by
  constructor
  · intro hsame c hc
    have hscript : CutInto endsScriptLine cs (fileLines cs) := (cutInto_iff rfl).mpr hsame
    have hfile : CutInto endsFileLine cs (fileLines cs) := (cutInto_iff rfl).mpr rfl
    cases hends : endsFileLine c with
    | true => simp [endsScriptOnly, hends]
    | false =>
      obtain ⟨line, hline, hmem⟩ := hfile.mem_line rfl rfl hc hends
      rw [← endsScriptLine_eq_endsScriptOnly hends]
      exact hscript.notMem line hline c hmem
  · intro h
    refine cutLines_congr (fun c hc => ?_) []
    cases hends : endsFileLine c with
    | true => exact endsScriptLine_of_endsFileLine hends
    | false => rw [endsScriptLine_eq_endsScriptOnly hends, h c hc]

/-- A text with a line feed for each line end of text files. -/
def plainEnds : List Char → List Char
  | [] => []
  | '\r' :: '\n' :: cs => '\n' :: plainEnds cs
  | c :: cs => (if c = '\r' then '\n' else c) :: plainEnds cs

theorem cutLines_plainEnds {isEnd : Char → Bool} (hreturn : isEnd '\r' = true)
    (hfeed : isEnd '\n' = true) (done cs : List Char) :
    cutLines isEnd done (plainEnds cs) = cutLines isEnd done cs := by
  fun_induction plainEnds cs generalizing done with
  | case1 => rfl
  | case2 cs ih => rw [cutLines_cons_of_end hfeed (by decide), ih, cutLines]
  | case3 c cs hpair ih =>
    split
    · next hc =>
      subst hc
      rw [cutLines_cons_of_end hfeed (by decide), ih, cutLines, if_pos hreturn]
      exact fun rest _ => hpair rest rfl
    · next hc =>
      cases hends : isEnd c with
      | true => rw [cutLines_cons_of_end hends hc, cutLines_cons_of_end hends hc, ih]
      | false => rw [cutLines_cons_of_not hreturn hends, cutLines_cons_of_not hreturn hends, ih]

end Scripts

end ScriptProfiling
