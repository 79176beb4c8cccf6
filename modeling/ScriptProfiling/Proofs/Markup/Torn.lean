import ScriptProfiling.Proofs.Markup.Lines

/-!
# Text in a style with a line end in it

Read line by line, the tag that closes the style stands on a line on which nothing was opened.
Nothing in escaped text makes up for that, since it opens nothing.

Such a text is `Torn`: behind its last line end there is no opening tag of the template left, and
the closing one has nothing to close. The backslashes at the end of the text decide only whether the
closing tag is one at all, and the lines before it are of no matter.
-/
namespace ScriptProfiling

section Escapes

variable {p q x : List Char} {c : Char}

theorem trailing_append_cons (hc : c ≠ '\\') (p q : List Char) :
    trailing (p ++ c :: q) = trailing q := by
  have hstop : (c :: p.reverse).takeWhile isBackslash = [] := by
    rw [List.takeWhile_cons_of_neg]
    simpa [isBackslash] using hc
  unfold trailing
  rw [List.reverse_append, List.reverse_cons, List.append_assoc, List.singleton_append,
    List.takeWhile_append, hstop, List.append_nil]
  split
  · next hall => exact hall.symm
  · rfl

/-- The end of a text is closed as it is, whatever stands before its last other character. -/
theorem closeEscape_append_cons (hc : c ≠ '\\') (p q : List Char) :
    closeEscape (p ++ c :: q) = p ++ c :: closeEscape q := by
  change (if trailing (p ++ c :: q) = 1 then _ else _) =
    p ++ c :: (if trailing q = 1 then _ else _)
  rw [trailing_append_cons hc]
  split
  · rw [List.append_assoc, List.cons_append]
  · rfl

theorem escapedTags_append_bracket {b : List Char} (hb : '[' ∉ b) (rest : List Char) :
    escapedTags (b ++ ']' :: rest) = b ++ ']' :: escapedTags rest := by
  have hapart : Apart (b ++ [']']) rest := by
    refine ⟨fun hunfinished => ?_, fun hlast => ?_⟩
    · rw [unfinished_concat_bracket] at hunfinished
      cases hunfinished
    · rw [List.getLast?_concat] at hlast
      cases hlast
  have hnone : '[' ∉ b ++ [']'] := List.not_mem_append hb (by decide)
  have hsplit : b ++ ']' :: rest = (b ++ [']']) ++ rest := by simp
  rw [hsplit, escapedTags_append hapart, escapedTags_eq_self hnone, List.append_assoc]
  rfl

/-- What stands behind a line end is escaped as it is, even in a tag that began before it. -/
theorem exists_escapedTags_lineEnd (p q : List Char) :
    ∃ e, escapedTags (p ++ '\n' :: q) = e ++ '\n' :: escapedTags q := by
  induction p using piecesInduction with
  | backslashes n => exact ⟨_, escapedTags_char n (by decide) (by decide)⟩
  | tag n more inner rest hbody ih =>
    obtain ⟨e, he⟩ := ih
    have hlonger := tagBody?_append_of_some hbody ('\n' :: q)
    rw [List.append_assoc, List.cons_append, escapedTags_tag n hlonger, he]
    exact ⟨List.replicate (2 * n + 1) '\\' ++ '[' :: (inner ++ ']' :: e), by simp⟩
  | bracket n more hnone ih =>
    rw [List.append_assoc, List.cons_append]
    cases hbody : tagBody? (more ++ '\n' :: q) with
    | none =>
      obtain ⟨e, he⟩ := ih
      rw [escapedTags_bracket n hbody, he]
      exact ⟨List.replicate n '\\' ++ '[' :: e, by simp⟩
    | some found =>
      obtain ⟨inner, rest⟩ := found
      have hinner := (tagBody?_eq_some hbody).1
      obtain ⟨after, rfl, hq⟩ := exists_of_tagBody?_append hnone hbody
      obtain ⟨b, rfl, rfl⟩ : ∃ b, after = '\n' :: b ∧ q = b ++ ']' :: rest := by
        cases after with
        | nil => cases hq
        | cons d b =>
          obtain ⟨rfl, hrest⟩ := List.cons.inj hq
          exact ⟨b, rfl, hrest⟩
      have hb : '[' ∉ b := by
        intro hmem
        have hbracket := hinner.isBracket_eq_false
          (List.mem_append_right more (List.mem_cons_of_mem '\n' hmem))
        cases hbracket
      rw [escapedTags_tag n hbody, escapedTags_append_bracket hb]
      exact ⟨List.replicate (2 * n + 1) '\\' ++ '[' :: more, by simp⟩
  | char n d more hslash hbracket ih =>
    obtain ⟨e, he⟩ := ih
    rw [List.append_assoc, List.cons_append, escapedTags_char n hslash hbracket, he]
    exact ⟨List.replicate n '\\' ++ d :: e, by simp⟩

theorem exists_escapeChars_lineEnd (p q : List Char) :
    ∃ e, escapeChars (p ++ '\n' :: q) = e ++ '\n' :: escapeChars q := by
  obtain ⟨e, he⟩ := exists_escapedTags_lineEnd p q
  refine ⟨e, ?_⟩
  change closeEscape (escapedTags (p ++ '\n' :: q)) = _
  rw [he, closeEscape_append_cons (by decide)]
  rfl

theorem exists_last_lineEnd (h : '\n' ∈ x) : ∃ p q, x = p ++ '\n' :: q ∧ '\n' ∉ q := by
  obtain ⟨before, after, hsplit, hbefore⟩ := List.eq_append_cons_of_mem (List.mem_reverse.mpr h)
  refine ⟨after.reverse, before.reverse, ?_, fun hmem => hbefore (List.mem_reverse.mp hmem)⟩
  rw [← List.reverse_reverse x, hsplit]
  simp

end Escapes

section Torn

variable {style : String} {text rest out x y : List Char} {k : Nat}

/-- Text of a style whose last line has nothing open, and leaves some backslashes to the tag
behind it. -/
structure Torn (text : List Char) (k : Nat) : Prop where
  exists_last : ∃ before last out, text = before ++ '\n' :: last ∧ '\n' ∉ last ∧ Inside last out k

theorem Torn.append (h : Torn text k) (before : List Char) : Torn (before ++ text) k := by
  obtain ⟨start, last, out, rfl, hlast, hinside⟩ := h.exists_last
  exact ⟨before ++ start, last, out, by simp, hlast, hinside⟩

theorem lineEnd_not_mem_escapeChars (h : '\n' ∉ x) : '\n' ∉ escapeChars x := by
  intro hmem
  rcases mem_escapeChars hmem with hmem | hslash
  · exact h hmem
  · cases hslash

theorem torn_escaped (h : '\n' ∈ x) : Torn (escapeChars x) (endSlashes (trailing x)) := by
  obtain ⟨p, q, rfl, hq⟩ := exists_last_lineEnd h
  obtain ⟨e, he⟩ := exists_escapeChars_lineEnd p q
  obtain ⟨y, hy, hlast⟩ := exists_trailing q
  have hinside := inside_escaped hlast (trailing q)
  rw [← hy] at hinside
  rw [trailing_append_cons (by decide)]
  exact ⟨e, escapeChars q, _, he, lineEnd_not_mem_escapeChars hq, hinside⟩

theorem torn_escaped_append (hrest : Inside rest out k) (hline : '\n' ∉ rest) (h : '\n' ∈ x)
    (hlast : x.getLast? ≠ some '\\') (htag : unfinished x = true → closes rest = false) :
    Torn (escapeChars x ++ rest) k := by
  obtain ⟨p, q, rfl, hq⟩ := exists_last_lineEnd h
  obtain ⟨e, he⟩ := exists_escapeChars_lineEnd p q
  have hsuffix : q <:+ p ++ '\n' :: q := (List.suffix_cons _ _).trans (List.suffix_append _ _)
  have hqlast : q.getLast? ≠ some '\\' := by
    intro hslash
    exact hlast (by simp [List.getLast?_append, List.getLast?_cons, hslash])
  have hinside := hrest.escaped_append hqlast fun hunfinished =>
    htag (unfinished_of_suffix hsuffix hunfinished)
  refine ⟨e, escapeChars q ++ rest, _, ?_, ?_, hinside⟩
  · rw [he, List.append_assoc, List.cons_append]
  · exact List.not_mem_append (lineEnd_not_mem_escapeChars hq) hline

/-- Of a torn text in a style some line cannot be read for itself. -/
theorem Torn.exists_error (h : Torn text k) (heven : k % 2 = 0) (hstyle : IsStyle style)
    (hline : '\n' ∉ style.toList) (before : List Char) :
    ∃ line ∈ splitAt '\n' (before ++ (text ++ '[' :: ('/' :: style.toList ++ ']' :: []))),
      ∃ e, (pieces line).foldlM Piece.obey [] = .error e := by
  obtain ⟨start, last, out, rfl, hlast, hinside⟩ := h.exists_last
  obtain ⟨ps, hstill, -, hpieces⟩ := hinside.exists_pieces
  have hname : '\n' ∉ '[' :: ('/' :: style.toList ++ ']' :: []) := by simp [hline]
  refine ⟨last ++ '[' :: ('/' :: style.toList ++ ']' :: []), ?_, ?_⟩
  · have hsplit : before ++ (start ++ '\n' :: last ++ '[' :: ('/' :: style.toList ++ ']' :: [])) =
        (before ++ start) ++ '\n' :: (last ++ '[' :: ('/' :: style.toList ++ ']' :: [])) := by simp
    rw [hsplit, splitAt_append_cons, splitAt_eq_singleton (List.not_mem_append hlast hname)]
    exact List.mem_append_right _ List.mem_cons_self
  · obtain ⟨e, he⟩ := Scanner.exists_follow_close_nil hstyle
    have hodd : decide (k % 2 = 1) = false := decide_eq_false (by omega)
    refine ⟨e, ?_⟩
    rw [hpieces _ [] (Scanner.isBody_close hstyle), hstill.foldlM, List.foldlM_cons, Piece.obey,
      hodd, he]
    rfl

end Torn

end ScriptProfiling
