import ScriptProfiling.Text.Blank
import Mathlib.Data.List.TakeWhile

/-!
# Blanks at the ends of a text

Stripping drops the blanks at both ends and keeps all from the first character that is no
blank to the last one.

The blanks are those of all scripts, so a line that looks empty is. Most uses know the first and the
last character that is no blank, and read off what is left between them.
-/
namespace ScriptProfiling

variable {before after : List Char}

theorem strip_eq_nil {cs : List Char} (h : ∀ c ∈ cs, isBlank c = true) : strip cs = [] := by
  have hall : dropBlanks cs = [] := List.dropWhile_eq_nil_iff.mpr h
  rw [strip, hall]
  rfl

/-- Blanks before a character that is none are dropped, and that character stays. -/
theorem strip_append_cons (hbefore : ∀ c ∈ before, isBlank c = true) {c : Char}
    (hc : isBlank c = false) (cs : List Char) :
    strip (before ++ c :: cs) = c :: (dropBlanks cs.reverse).reverse := by
  have hstart : dropBlanks (before ++ c :: cs) = c :: cs := by
    rw [dropBlanks, List.dropWhile_append_of_pos hbefore, List.dropWhile_cons_of_neg (by simp [hc])]
  have hend : dropBlanks (cs.reverse ++ [c]) = dropBlanks cs.reverse ++ [c] := by
    rw [dropBlanks, List.dropWhile_append]
    split
    · next hempty =>
      have hnil : dropBlanks cs.reverse = [] := List.isEmpty_iff.mp hempty
      rw [List.dropWhile_cons_of_neg (by simp [hc]), hnil, List.nil_append]
    · rfl
  rw [strip, hstart, List.reverse_cons, hend]
  simp

theorem strip_between (hbefore : ∀ c ∈ before, isBlank c = true)
    (hafter : ∀ c ∈ after, isBlank c = true) {first last : Char} (hfirst : isBlank first = false)
    (hlast : isBlank last = false) (middle : List Char) :
    strip (before ++ first :: (middle ++ last :: after)) = first :: (middle ++ [last]) := by
  have hend : dropBlanks (middle ++ last :: after).reverse = last :: middle.reverse := by
    rw [dropBlanks, List.reverse_append, List.reverse_cons, List.append_assoc,
      List.dropWhile_append_of_pos (by simpa using hafter), List.singleton_append,
      List.dropWhile_cons_of_neg (by simp [hlast])]
  rw [strip_append_cons hbefore hfirst, hend]
  simp

theorem blank_or_begins (cs : List Char) :
    (∀ c ∈ cs, isBlank c = true) ∨
      ∃ before c text, cs = before ++ c :: text ∧ (∀ b ∈ before, isBlank b = true) ∧
        isBlank c = false := by
  cases hrest : cs.dropWhile isBlank with
  | nil => exact Or.inl (List.dropWhile_eq_nil_iff.mp hrest)
  | cons c text =>
    have hsplit := List.takeWhile_append_dropWhile (p := isBlank) (l := cs)
    have hc : ¬ isBlank c = true := by
      have hhead := List.head_dropWhile_not (p := isBlank) (l := cs) (by simp [hrest])
      simpa [hrest] using hhead
    rw [hrest] at hsplit
    refine Or.inr ⟨_, c, text, hsplit.symm, fun b hb => ?_, by simpa using hc⟩
    exact List.mem_takeWhile_imp hb

end ScriptProfiling
