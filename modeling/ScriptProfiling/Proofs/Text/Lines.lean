import ScriptProfiling.Text.Lines
import Mathlib.Data.List.Infix

/-!
# Pieces between separators

The pieces lie in the text that is cut, and no separator is left in them.

Joining is undone by splitting only where no piece has a separator in it; where one has, there are
more pieces than were joined. A text that ends in a separator has an empty piece behind it, which
says nothing to whoever reads lines.
-/
namespace ScriptProfiling

theorem splitAt_pieces (sep : Char) (cs : List Char) :
    (∀ piece ∈ (splitAt sep cs).head?, piece <+: cs) ∧ ∀ piece ∈ splitAt sep cs, piece <:+: cs := by
  induction cs with
  | nil => simp [splitAt]
  | cons c cs ih =>
    simp only [splitAt]
    cases hpieces : splitAt sep cs with
    | nil => exact absurd hpieces (splitAt_ne_nil sep cs)
    | cons piece rest =>
      rw [hpieces] at ih
      have hfirst : piece <+: cs := ih.1 piece rfl
      have hrest : ∀ p ∈ rest, p <:+: c :: cs := fun p hp =>
        (ih.2 p (List.mem_cons_of_mem _ hp)).trans (List.suffix_cons c cs).isInfix
      dsimp only
      split
      · have hall : ∀ p ∈ piece :: rest, p <:+: c :: cs :=
          List.forall_mem_cons.mpr ⟨hfirst.isInfix.trans (List.suffix_cons c cs).isInfix, hrest⟩
        simpa using hall
      · have hlonger : c :: piece <+: c :: cs := List.cons_prefix_cons.mpr ⟨rfl, hfirst⟩
        simpa using ⟨hfirst, hlonger.isInfix, hrest⟩

theorem isInfix_of_mem_feedLines {cs line : List Char} (h : line ∈ feedLines cs) :
    line <:+: cs := by
  unfold feedLines at h
  dsimp only at h
  split at h
  · exact (splitAt_pieces '\n' cs).2 line ((List.dropLast_subset _ h))
  · exact (splitAt_pieces '\n' cs).2 line h

theorem not_mem_of_mem_splitAt {sep : Char} {cs piece : List Char} (h : piece ∈ splitAt sep cs) :
    sep ∉ piece := by
  induction cs generalizing piece with
  | nil =>
    obtain rfl := List.mem_singleton.mp h
    exact List.not_mem_nil
  | cons c cs ih =>
    simp only [splitAt] at h
    cases hpieces : splitAt sep cs with
    | nil => exact absurd hpieces (splitAt_ne_nil sep cs)
    | cons first rest =>
      rw [hpieces] at h ih
      dsimp only at h
      split at h
      · rcases List.mem_cons.mp h with rfl | h
        · exact List.not_mem_nil
        · exact ih h
      · next hc =>
        rcases List.mem_cons.mp h with rfl | h
        · exact List.not_mem_cons_of_ne_of_not_mem (Ne.symm hc) (ih List.mem_cons_self)
        · exact ih (List.mem_cons_of_mem _ h)

theorem splitAt_eq_singleton {sep : Char} {cs : List Char} (h : sep ∉ cs) :
    splitAt sep cs = [cs] := by
  induction cs with
  | nil => rfl
  | cons c cs ih =>
    have hc : c ≠ sep := fun heq => h (heq ▸ List.mem_cons_self)
    rw [splitAt, ih fun hmem => h (List.mem_cons_of_mem _ hmem)]
    simp [hc]

theorem splitAt_append_cons (sep : Char) (cs ds : List Char) :
    splitAt sep (cs ++ sep :: ds) = splitAt sep cs ++ splitAt sep ds := by
  induction cs with
  | nil =>
    obtain ⟨piece, rest, hpieces⟩ := List.exists_cons_of_ne_nil (splitAt_ne_nil sep ds)
    simp [splitAt, hpieces]
  | cons c cs ih =>
    obtain ⟨piece, rest, hpieces⟩ := List.exists_cons_of_ne_nil (splitAt_ne_nil sep cs)
    rw [List.cons_append, splitAt, ih, splitAt, hpieces]
    dsimp only [List.cons_append]
    split <;> rfl

theorem mem_splitAt_of_isInfix {sep : Char} {piece cs : List Char} (h : sep ∉ piece)
    (hbetween : sep :: (piece ++ [sep]) <:+: cs) : piece ∈ splitAt sep cs := by
  obtain ⟨before, after, rfl⟩ := hbetween
  have hcut : before ++ sep :: (piece ++ [sep]) ++ after =
      before ++ sep :: (piece ++ sep :: after) := by simp
  rw [hcut, splitAt_append_cons, splitAt_append_cons, splitAt_eq_singleton h]
  exact List.mem_append_right _ List.mem_cons_self

theorem splitAt_intercalate {sep : Char} {pieces : List (List Char)} (hne : pieces ≠ [])
    (h : ∀ piece ∈ pieces, sep ∉ piece) : splitAt sep ([sep].intercalate pieces) = pieces := by
  induction pieces with
  | nil => exact absurd rfl hne
  | cons piece pieces ih =>
    have hpiece := splitAt_eq_singleton (h piece List.mem_cons_self)
    cases pieces with
    | nil => simpa using hpiece
    | cons next pieces =>
      have hrest := ih (List.cons_ne_nil _ _) fun p hp => h p (List.mem_cons_of_mem _ hp)
      rw [List.intercalate_cons_cons, List.append_assoc, List.singleton_append, splitAt_append_cons,
        hpiece, hrest]
      rfl

theorem flatMap_splitAt (sep : Char) (cs : List Char) :
    (splitAt sep cs).flatMap (sep :: ·) = sep :: cs := by
  induction cs with
  | nil => rfl
  | cons c cs ih =>
    obtain ⟨piece, rest, hpieces⟩ := List.exists_cons_of_ne_nil (splitAt_ne_nil sep cs)
    rw [hpieces, List.flatMap_cons, List.cons_append] at ih
    rw [splitAt, hpieces]
    dsimp only
    split
    · next hc =>
      rw [hc, List.flatMap_cons, List.flatMap_cons, List.cons_append, List.nil_append,
        List.cons_append, ih]
    · rw [List.flatMap_cons, List.cons_append, List.cons_append, (List.cons.inj ih).2]

theorem splitAt_of_flatMap {sep : Char} {cs : List Char} {pieces : List (List Char)}
    (h : sep :: cs = pieces.flatMap (sep :: ·)) (hpieces : ∀ piece ∈ pieces, sep ∉ piece) :
    splitAt sep cs = pieces := by
  induction pieces generalizing cs with
  | nil => cases h
  | cons piece pieces ih =>
    obtain ⟨hpiece, hpieces⟩ := List.forall_mem_cons.mp hpieces
    rw [List.flatMap_cons, List.cons_append] at h
    obtain ⟨-, rfl⟩ := List.cons.inj h
    cases pieces with
    | nil =>
      rw [List.flatMap_nil, List.append_nil]
      exact splitAt_eq_singleton hpiece
    | cons next pieces =>
      have hrest : splitAt sep (next ++ pieces.flatMap (sep :: ·)) = next :: pieces :=
        ih rfl hpieces
      rw [List.flatMap_cons, List.cons_append, splitAt_append_cons, splitAt_eq_singleton hpiece,
        hrest]
      rfl

/-- The last piece is empty only where a separator stands before it, or no text at all. -/
theorem eq_nil_or_getLast?_of_splitAt {sep : Char} {cs : List Char}
    (h : (splitAt sep cs).getLast? = some []) : cs = [] ∨ cs.getLast? = some sep := by
  induction cs with
  | nil => exact Or.inl rfl
  | cons c cs ih =>
    right
    obtain ⟨piece, rest, hpieces⟩ := List.exists_cons_of_ne_nil (splitAt_ne_nil sep cs)
    rw [splitAt, hpieces] at h
    rw [hpieces] at ih
    dsimp only at h
    split at h
    · next hc =>
      rw [List.getLast?_cons_cons] at h
      rcases ih h with rfl | hlast
      · simp [hc]
      · simp [List.getLast?_cons, hlast]
    · next hc =>
      cases rest with
      | nil => simp at h
      | cons next rest =>
        rw [List.getLast?_cons_cons] at h ih
        rcases ih h with rfl | hlast
        · simp [splitAt] at hpieces
        · simp [List.getLast?_cons, hlast]

theorem feedLines_append_cons (cs ds : List Char) :
    feedLines (cs ++ '\n' :: ds) = splitAt '\n' cs ++ feedLines ds := by
  have hne := splitAt_ne_nil '\n' ds
  simp only [feedLines, splitAt_append_cons, List.getLast?_append_of_ne_nil _ hne,
    List.dropLast_append_of_ne_nil hne]
  split <;> rfl

end ScriptProfiling
