import ScriptProfiling.Proofs.Markup.Shown

/-!
# Text that markup shows as it is

Reading markup only takes characters away: tags that are obeyed, backslashes that escape
something, and what a terminal would obey. So a text is shown as it is exactly if it has nothing
of the kind.

The three conditions are decidable, and they are necessary one by one: the text that is shown is a
part of the text, with as many characters fewer as are taken away, so that nothing that is lost in
one place can be made up for in another.
-/
namespace ScriptProfiling

section Tags

variable {c : Char} {cs more : List Char}

/-- Somewhere in a text stands what is a tag unless it is escaped. -/
def HasTag (cs : List Char) : Prop := ∃ body, IsBody body ∧ '[' :: (body ++ [']']) <:+: cs

theorem isSome_tagBody?_iff :
    (tagBody? cs).isSome = true ↔ ∃ body, IsBody body ∧ body ++ [']'] <+: cs := by
  constructor
  · intro h
    obtain ⟨⟨body, rest⟩, hfound⟩ := Option.isSome_iff_exists.mp h
    obtain ⟨hbody, rfl⟩ := tagBody?_eq_some hfound
    exact ⟨body, hbody, rest, by simp⟩
  · rintro ⟨body, hbody, rest, rfl⟩
    rw [List.append_assoc, List.singleton_append, tagBody?_of_isBody hbody rest]
    rfl

theorem not_hasTag_nil : ¬ HasTag [] := by
  rintro ⟨body, -, h⟩
  simp at h

theorem hasTag_cons :
    HasTag (c :: cs) ↔ (c = '[' ∧ (tagBody? cs).isSome = true) ∨ HasTag cs := by
  simp only [HasTag, isSome_tagBody?_iff, List.infix_cons_iff, List.cons_prefix_cons, and_or_left,
    exists_or]
  refine or_congr ⟨?_, ?_⟩ Iff.rfl
  · rintro ⟨body, hbody, rfl, h⟩
    exact ⟨rfl, body, hbody, h⟩
  · rintro ⟨rfl, body, hbody, h⟩
    exact ⟨body, hbody, rfl, h⟩

theorem hasTag_cons_of_ne (h : c ≠ '[') : HasTag (c :: cs) ↔ HasTag cs := by
  simp [hasTag_cons, h]

theorem hasTag_backslashes (n : Nat) : HasTag (List.replicate n '\\' ++ cs) ↔ HasTag cs := by
  induction n with
  | zero => rfl
  | succ n ih => rw [List.replicate_succ, List.cons_append, hasTag_cons_of_ne (by decide), ih]

instance decidableHasTag : (cs : List Char) → Decidable (HasTag cs)
  | [] => isFalse not_hasTag_nil
  | _ :: cs =>
    have := decidableHasTag cs
    decidable_of_iff _ hasTag_cons.symm

theorem pieces_eq_chars_iff : pieces cs = cs.map .char ↔ ¬ HasTag cs := by
  induction cs using piecesInduction with
  | backslashes n =>
    have hnone : ¬ HasTag (List.replicate n '\\' ++ []) := by
      rw [hasTag_backslashes]
      exact not_hasTag_nil
    rw [List.append_nil] at hnone
    exact iff_of_true (pieces_backslashes n) hnone
  | tag n more inner rest hbody ih =>
    rw [pieces_tag n hbody, hasTag_backslashes, hasTag_cons, hbody]
    refine iff_of_false ?_ (by simp)
    cases n <;> simp [List.replicate_succ]
  | bracket n more hbody ih =>
    rw [pieces_bracket n hbody, hasTag_backslashes, hasTag_cons, hbody]
    simp [ih]
  | char n c more hslash hbracket ih =>
    rw [pieces_char n hslash hbracket, hasTag_backslashes, hasTag_cons_of_ne hbracket]
    simp [ih]

end Tags

section Losses

variable {α : Type} {a b c d : List α}

/-- Parts that lose nothing together lose nothing each. -/
theorem eq_and_eq_of_append_sublist (hac : a.Sublist c) (hbd : b.Sublist d) (h : a ++ b = c ++ d) :
    a = c ∧ b = d := by
  have hlength := congrArg List.length h
  rw [List.length_append, List.length_append] at hlength
  have hleft := hac.length_le
  have hright := hbd.length_le
  exact ⟨hac.eq_of_length (by omega), hbd.eq_of_length (by omega)⟩

end Losses

section Display

variable {ps : List Piece} {cs : List Char}

theorem Piece.length_shown_tag_lt (escapes : Nat) (body : List Char) :
    (Piece.tag escapes body).shown.length < (Piece.tag escapes body).source.length := by
  rw [Piece.shown, Piece.source]
  split
  · simp only [List.length_append, List.length_replicate, List.length_cons]
    omega
  · simp only [List.length_append, List.length_replicate, List.length_cons, List.length_nil]
    omega

theorem Piece.shown_sublist (p : Piece) : p.shown.Sublist p.source := by
  cases p with
  | char c => exact List.Sublist.refl _
  | tag escapes body =>
    have hslashes : (List.replicate (escapes / 2) '\\').Sublist (List.replicate escapes '\\') :=
      List.replicate_sublist_iff.mpr (by simpa using Nat.div_le_self escapes 2)
    rw [Piece.shown, Piece.source, List.append_assoc]
    refine hslashes.append ?_
    split
    · exact List.Sublist.refl _
    · exact List.nil_sublist _

theorem display_cons_sublist (p : Piece) (ps : List Piece) :
    (if p = .char '\\' ∧ ps.head? = some (.char '[') then [] else p.shown).Sublist p.source := by
  split
  · exact List.nil_sublist _
  · exact p.shown_sublist

theorem display_sublist (ps : List Piece) : (display ps).Sublist (ps.flatMap Piece.source) := by
  induction ps with
  | nil => exact List.Sublist.refl _
  | cons p ps ih => exact (display_cons_sublist p ps).append ih

theorem display_eq_source_iff : display ps = ps.flatMap Piece.source ↔
    ∃ cs, ps = cs.map .char ∧ ¬ ['\\', '['] <:+: cs := by
  induction ps with
  | nil => exact iff_of_true rfl ⟨[], rfl, by decide⟩
  | cons p ps ih =>
    have hhead : ∀ cs : List Char, ps = cs.map .char →
        (ps.head? = some (.char '[') ↔ ['['] <+: cs) := by
      rintro cs rfl
      cases cs <;> simp [eq_comm]
    constructor
    · intro h
      obtain ⟨hfirst, hrest⟩ :=
        eq_and_eq_of_append_sublist (display_cons_sublist p ps) (display_sublist ps) h
      obtain ⟨cs, rfl, hcs⟩ := ih.mp hrest
      cases p with
      | tag escapes body =>
        rw [if_neg (by simp)] at hfirst
        exact absurd (congrArg List.length hfirst) (Piece.length_shown_tag_lt escapes body).ne
      | char c =>
        refine ⟨c :: cs, rfl, ?_⟩
        rw [List.infix_cons_iff, List.cons_prefix_cons, not_or, not_and, ← hhead cs rfl]
        refine ⟨?_, hcs⟩
        rintro rfl hbracket
        rw [if_pos ⟨rfl, hbracket⟩] at hfirst
        cases hfirst
    · rintro ⟨cs, hmap, hcs⟩
      obtain ⟨c, rest, rfl, rfl, rfl⟩ := List.map_eq_cons_iff.mp hmap.symm
      rw [List.infix_cons_iff, List.cons_prefix_cons, not_or, not_and, ← hhead rest rfl] at hcs
      have hshown : ¬ (Piece.char c = .char '\\' ∧
          (rest.map Piece.char).head? = some (.char '[')) := by
        rintro ⟨hslash, hbracket⟩
        exact hcs.1 (Piece.char.inj hslash).symm hbracket
      rw [display, if_neg hshown, ih.mpr ⟨rest, rfl, hcs.2⟩]
      rfl

end Display

section Verbatim

variable {cs : List Char} {s : String}

/-- Text in which markup finds nothing to obey or to take away. -/
structure Verbatim (cs : List Char) : Prop where
  noTag : ¬ HasTag cs
  noEscape : ¬ ['\\', '['] <:+: cs
  noControl : ∀ c ∈ cs, isTerminalControl c = false

instance (cs : List Char) : Decidable (Verbatim cs) :=
  have : Decidable (['\\', '['] <:+: cs) := List.instDecidableIsInfixOfDecidableEq _ cs
  have : Decidable (∀ c ∈ cs, isTerminalControl c = false) := List.decidableBAll _ cs
  decidable_of_iff (¬ HasTag cs ∧ ¬ ['\\', '['] <:+: cs ∧ ∀ c ∈ cs, isTerminalControl c = false)
    ⟨fun ⟨noTag, noEscape, noControl⟩ => ⟨noTag, noEscape, noControl⟩,
      fun ⟨noTag, noEscape, noControl⟩ => ⟨noTag, noEscape, noControl⟩⟩

theorem Verbatim.pieces_eq (h : Verbatim cs) : pieces cs = cs.map .char :=
  pieces_eq_chars_iff.mpr h.noTag

theorem Verbatim.display_eq (h : Verbatim cs) : display (pieces cs) = cs := by
  rw [display_eq_source_iff.mpr ⟨cs, h.pieces_eq, h.noEscape⟩, flatMap_source_pieces]

theorem Verbatim.visible_eq (h : Verbatim cs) : visible cs = cs := visible_eq_self h.noControl

theorem Verbatim.obeyed (h : Verbatim cs) (tags : List OpenTag) :
    (pieces cs).foldlM Piece.obey tags = .ok tags := by
  rw [h.pieces_eq]
  exact (still_chars cs).foldlM_eq tags

/-- What is shown in full is verbatim: nothing that is lost can be made up for. -/
theorem verbatim_of_shown (h : visible (display (pieces cs)) = cs) : Verbatim cs := by
  have hdisplay : (display (pieces cs)).Sublist cs := by
    have hsublist := display_sublist (pieces cs)
    rwa [flatMap_source_pieces] at hsublist
  have hvisible : cs.Sublist (display (pieces cs)) := by
    have hsublist : (visible (display (pieces cs))).Sublist (display (pieces cs)) :=
      List.filter_sublist
    rwa [h] at hsublist
  have heq : display (pieces cs) = cs := hdisplay.antisymm hvisible
  have hsource : display (pieces cs) = (pieces cs).flatMap Piece.source := by
    rw [heq, flatMap_source_pieces]
  obtain ⟨ds, hpieces, hescape⟩ := display_eq_source_iff.mp hsource
  have htext := flatMap_source_pieces cs
  rw [hpieces, flatMap_source_chars] at htext
  obtain rfl := htext
  refine ⟨pieces_eq_chars_iff.mp hpieces, hescape, fun c hc => ?_⟩
  rw [heq] at h
  simpa using List.filter_eq_self.mp h c hc

theorem stripMarkup_eq_self_iff : stripMarkup s = .ok s ↔ Verbatim s.toList := by
  rw [stripMarkup_eq_ok_iff]
  constructor
  · rintro ⟨-, h⟩
    exact verbatim_of_shown h.symm
  · intro h
    exact ⟨⟨[], h.obeyed []⟩, by rw [h.display_eq, h.visible_eq]⟩

end Verbatim

end ScriptProfiling
