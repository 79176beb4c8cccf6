import ScriptProfiling.Proofs.Markup.Legible

/-!
# Markup that shows a text

Whether markup shows a text is said together with the converse: where it does not, no line
behind it makes up for a character that is lost or doubled.

`Shows` is stated for a condition on the text, and with any further lines behind what is shown: this
is what lets the lines of a report be compared one by one although the texts are compared whole.
-/
namespace ScriptProfiling

section Shows

variable {cs ds out more : List Char} {P Q : Prop}

/-- Nothing, or a text that begins with a line end. -/
def AtLineEnd (cs : List Char) : Prop := ∀ c ∈ cs.head?, c = '\n'

theorem atLineEnd_nil : AtLineEnd [] := nofun

theorem atLineEnd_cons (cs : List Char) : AtLineEnd ('\n' :: cs) := by
  intro c hc
  exact (Option.some.inj hc).symm

theorem AtLineEnd.eq_nil_or_cons (h : AtLineEnd cs) : cs = [] ∨ ∃ more, cs = '\n' :: more := by
  cases cs with
  | nil => exact Or.inl rfl
  | cons c more => exact Or.inr ⟨more, by rw [h c rfl]⟩

theorem AtLineEnd.append (h : AtLineEnd cs) (hmore : AtLineEnd more) : AtLineEnd (cs ++ more) := by
  rcases h.eq_nil_or_cons with rfl | ⟨ds, rfl⟩
  · exact hmore
  · exact atLineEnd_cons _

theorem AtLineEnd.visible (h : AtLineEnd cs) : AtLineEnd (visible cs) := by
  rcases h.eq_nil_or_cons with rfl | ⟨ds, rfl⟩
  · exact atLineEnd_nil
  · rw [visible_cons_of_not (by decide)]
    exact atLineEnd_cons _

theorem pieces_lineEnd (cs : List Char) : pieces ('\n' :: cs) = .char '\n' :: pieces cs :=
  pieces_cons (by decide) (by decide) cs

theorem display_lineEnd (cs : List Char) :
    display (pieces ('\n' :: cs)) = '\n' :: display (pieces cs) := by
  rw [pieces_lineEnd]
  rfl

theorem AtLineEnd.head?_pieces (h : AtLineEnd cs) : (pieces cs).head? ≠ some (.char '[') := by
  rcases h.eq_nil_or_cons with rfl | ⟨ds, rfl⟩
  · rw [pieces_nil]
    nofun
  · rw [pieces_lineEnd]
    simp

theorem AtLineEnd.display (h : AtLineEnd cs) : AtLineEnd (display (pieces cs)) := by
  rcases h.eq_nil_or_cons with rfl | ⟨ds, rfl⟩
  · rw [pieces_nil]
    exact atLineEnd_nil
  · rw [display_lineEnd]
    exact atLineEnd_cons _

/-- Markup that shows a text if a condition is met, and only then: where it is not met, what
follows on further lines does not make up for it. -/
structure Shows (cs out : List Char) (P : Prop) : Prop where
  obeyed : P → ∀ tags, (pieces cs).foldlM Piece.obey tags = .ok tags
  shown : P → display (pieces cs) = out
  exact : ∀ a b, AtLineEnd a → AtLineEnd b →
    visible (display (pieces cs)) ++ a = visible out ++ b → P ∧ a = b

theorem Shows.congr (h : Shows cs out P) (hiff : P ↔ Q) : Shows cs out Q := propext hiff ▸ h

/-- Texts on lines of their own are shown one after the other. -/
theorem Shows.append (h : Shows cs out P) (hmore : Shows ds more Q)
    (htag : unfinished cs = true → closes ds = false) (hds : AtLineEnd ds)
    (hout : AtLineEnd more) : Shows (cs ++ ds) (out ++ more) (P ∧ Q) := by
  have hapart : Apart cs ds := by
    refine ⟨htag, fun _ => ?_⟩
    rcases hds.eq_nil_or_cons with rfl | ⟨rest, rfl⟩
    · exact ⟨nofun, nofun⟩
    · exact ⟨by simp, by simp⟩
  have hdisplay : display (pieces (cs ++ ds)) = display (pieces cs) ++ display (pieces ds) := by
    rw [pieces_append hapart, display_append fun _ => hds.head?_pieces]
  constructor
  · rintro ⟨hP, hQ⟩ tags
    rw [pieces_append hapart, List.foldlM_append, h.obeyed hP]
    exact hmore.obeyed hQ tags
  · rintro ⟨hP, hQ⟩
    rw [hdisplay, h.shown hP, hmore.shown hQ]
  · intro a b ha hb heq
    rw [hdisplay, visible_append, visible_append, List.append_assoc, List.append_assoc] at heq
    obtain ⟨hP, hrest⟩ := h.exact _ _ (hds.display.visible.append ha) (hout.visible.append hb) heq
    obtain ⟨hQ, hab⟩ := hmore.exact a b ha hb hrest
    exact ⟨⟨hP, hQ⟩, hab⟩

theorem shows_flat (h : Flat cs) : Shows cs cs True := by
  refine ⟨fun _ tags => ?_, fun _ => h.display_eq, fun a b _ _ heq => ?_⟩
  · rw [h.pieces_eq]
    exact (still_chars cs).foldlM_eq tags
  · rw [h.display_eq] at heq
    exact ⟨trivial, List.append_cancel_left heq⟩

end Shows

section Endings

variable {cs a b : List Char}

theorem visible_eq_self (h : ∀ c ∈ cs, isTerminalControl c = false) : visible cs = cs :=
  List.filter_eq_self.mpr fun c hc => by rw [h c hc]; rfl

theorem visible_backslashes (n : Nat) :
    visible (List.replicate n '\\') = List.replicate n '\\' := by
  refine visible_eq_self fun c hc => ?_
  rw [List.eq_of_mem_replicate hc]
  decide

/-- Backslashes at the end of a line are not made up for by what follows the line. -/
theorem eq_of_endSlashes {k : Nat} (hb : AtLineEnd b)
    (h : visible (List.replicate (endSlashes k) '\\') ++ a = visible (List.replicate k '\\') ++ b) :
    k ≠ 1 ∧ a = b := by
  rw [visible_backslashes, visible_backslashes] at h
  by_cases hk : k = 1
  · obtain rfl := hk
    have hdoubled : '\\' :: a = b := by simpa [endSlashes] using h
    exact absurd (hb '\\' (by rw [← hdoubled]; rfl)) (by decide)
  · rw [endSlashes, if_neg hk] at h
    exact ⟨hk, List.append_cancel_left h⟩

/-- Nor are those before a tag of the template. -/
theorem le_one_of_endSlashes {k : Nat} {body : List Char} (ha : AtLineEnd a)
    (h : visible (Piece.tag (endSlashes k) body).shown ++ a =
      visible (List.replicate k '\\') ++ b) :
    k ≤ 1 ∧ a = b := by
  by_cases hk : k ≤ 1
  · rw [shown_endSlashes_iff.mpr hk] at h
    exact ⟨hk, List.append_cancel_left h⟩
  · exfalso
    have hend : endSlashes k = k := if_neg (by omega)
    have hmore : ∃ j, k = k / 2 + (j + 1) := ⟨k - k / 2 - 1, by omega⟩
    obtain ⟨j, hj⟩ := hmore
    have hsplit : List.replicate k '\\' =
        List.replicate (k / 2) '\\' ++ '\\' :: List.replicate j '\\' := by
      rw [← List.replicate_succ, List.replicate_append_replicate, ← hj]
    rw [hend, Piece.shown, hsplit] at h
    have hrest := visible_cancel _ h
    have hslash : (visible ('\\' :: List.replicate j '\\') ++ b).head? = some '\\' := by
      rw [visible_cons_of_not (by decide)]
      rfl
    rw [← hrest] at hslash
    split at hslash
    · rw [List.cons_append, visible_cons_of_not (by decide)] at hslash
      cases hslash
    · exact absurd (ha '\\' hslash) (by decide)

theorem literal_eq_self (h : '\\' ∉ cs) : literal cs = cs := literal_eq (loneEscape_eq_false h)

theorem unfinished_concat_bracket (cs : List Char) : unfinished (cs ++ [']']) = false := by
  induction cs with
  | nil => rfl
  | cons c cs ih =>
    have hclosed : goesOn (cs ++ [']']) = false := by simp [goesOn, isBracket]
    rw [List.cons_append, unfinished, ih, hclosed]
    simp

theorem closes_quiet_append (h : Quiet cs) (ds : List Char) : closes (cs ++ ds) = closes ds := by
  have hnone : cs.any isBracket = false := by
    rw [List.any_eq_false]
    intro c hc hbracket
    have hquiet := h c hc
    rw [isQuiet, hbracket] at hquiet
    cases hquiet
  rw [closes_append, hnone]
  rfl

end Endings

end ScriptProfiling
