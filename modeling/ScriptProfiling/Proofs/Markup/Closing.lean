import ScriptProfiling.Proofs.Markup.Torn

/-!
# Text that closes nothing

Escaped text has no closing tag of its own. Text behind it may complete a tag that it begins, but
that one closes something only if a slash follows its bracket. Behind a tag that is completed so,
escaped text goes on as the escape of what is left of it.

A text that begins with the rest of a tag is asked for more than that none of its own pieces closes
anything: what stands behind its first bracket must close nothing either, since that bracket may end
a tag from before. `Sealed` is both, and it is what a text keeps under whatever stands behind it.
-/
namespace ScriptProfiling

/-- Tags that are obeyed and close something. -/
def Piece.IsClosing : Piece → Prop
  | .char _ => False
  | .tag escapes body => escapes % 2 = 0 ∧ body.head? = some '/'

/-- No piece is a tag that closes something: whatever is open stays open. -/
def NoClosing (ps : List Piece) : Prop := ∀ p ∈ ps, ¬ p.IsClosing

section NoClosing

variable {ps qs : List Piece}

theorem NoClosing.append (h : NoClosing ps) (hqs : NoClosing qs) : NoClosing (ps ++ qs) :=
  List.forall_mem_append.mpr ⟨h, hqs⟩

theorem noClosing_chars (cs : List Char) : NoClosing (cs.map .char) := by
  intro p hp hclosing
  obtain ⟨c, -, rfl⟩ := List.mem_map.mp hp
  exact hclosing

theorem noClosing_escapedOnce (ps : List Piece) : NoClosing (ps.map escapedOnce) := by
  intro p hp hclosing
  obtain ⟨q, -, rfl⟩ := List.mem_map.mp hp
  cases q with
  | char c => exact hclosing
  | tag escapes body =>
    have heven : (2 * escapes + 1) % 2 = 0 := hclosing.1
    omega

theorem noClosing_escapeChars (x : List Char) : NoClosing (pieces (escapeChars x)) := by
  obtain ⟨y, hx, hy⟩ := exists_trailing x
  rw [hx, pieces_escapeChars hy]
  exact (noClosing_escapedOnce _).append (noClosing_chars _)

/-- Where nothing is closed, what is open stays open, and only the name of a tag can be wrong. -/
theorem NoClosing.foldlM_obey (h : NoClosing ps) (tags : List OpenTag) :
    (∃ left, ps.foldlM Piece.obey tags = .ok left ∧ tags <:+ left) ∨
      ps.foldlM Piece.obey tags = .error .badValue := by
  induction ps generalizing tags with
  | nil => exact Or.inl ⟨tags, rfl, List.suffix_refl tags⟩
  | cons p ps ih =>
    obtain ⟨hp, hps⟩ := List.forall_mem_cons.mp h
    have hstep : (∃ left, p.obey tags = .ok left ∧ tags <:+ left) ∨
        p.obey tags = .error .badValue := by
      cases p with
      | char c => exact Or.inl ⟨tags, rfl, List.suffix_refl tags⟩
      | tag escapes body =>
        by_cases hodd : escapes % 2 = 1
        · exact Or.inl ⟨tags, by rw [Piece.obey, decide_eq_true hodd]; rfl, List.suffix_refl tags⟩
        · have hopening : body.head? ≠ some '/' := by
            intro hslash
            exact hp ⟨by omega, hslash⟩
          rw [Piece.obey, decide_eq_false hodd, Scanner.follow_opening hopening]
          cases hname : Style.normalName (tagName body) with
          | ok name => exact Or.inl ⟨_, rfl, List.suffix_cons _ _⟩
          | error f => exact Or.inr (congrArg Except.error (Style.unreadable_normalName _ f hname))
    rw [List.foldlM_cons]
    rcases hstep with ⟨left, hleft, hsuffix⟩ | herror
    · rw [hleft]
      refine (ih hps left).imp_left ?_
      rintro ⟨last, hlast, hkept⟩
      exact ⟨last, hlast, hsuffix.trans hkept⟩
    · rw [herror]
      exact Or.inr rfl

theorem NoClosing.cls_stripMarkup {s : String} {f : Fault} (h : NoClosing (pieces s.toList))
    (hf : stripMarkup s = .error f) : f.cls = .badValue := by
  have hobey : (pieces s.toList).foldlM Piece.obey [] = .error f.cls := by
    have houtcome := (Reader.outcome_foldlM .start (pieces s.toList)).symm.trans
      (Scanner.outcome_pieces .start s.toList)
    have hscan : Scanner.run ⟨false, none, []⟩ s.toList = .error f.cls := Scanner.cls_stripMarkup hf
    change (pieces s.toList).foldlM Piece.obey [] = (Scanner.run ⟨false, none, []⟩ s.toList).map _
      at houtcome
    rw [houtcome, hscan]
    rfl
  rcases h.foldlM_obey [] with ⟨left, hleft, -⟩ | herror
  · rw [hobey] at hleft
    cases hleft
  · rw [hobey] at herror
    exact Except.error.inj herror

end NoClosing

section FirstBracket

variable {cs x a b e f : List Char}

theorem closes_eq_true_iff : closes cs = true ↔
    ∃ a b, cs = a ++ ']' :: b ∧ ∀ c ∈ a, isBracket c = false := by
  constructor
  · intro h
    induction cs with
    | nil => cases h
    | cons c cs ih =>
      unfold closes at h
      cases hc : isBracket c with
      | true =>
        rw [hc, if_pos rfl] at h
        exact ⟨[], cs, by rw [eq_of_beq h]; rfl, List.forall_mem_nil _⟩
      | false =>
        rw [hc] at h
        obtain ⟨a, b, rfl, ha⟩ := ih h
        exact ⟨c :: a, b, rfl, List.forall_mem_cons.mpr ⟨hc, ha⟩⟩
  · rintro ⟨a, b, rfl, ha⟩
    rw [closes_append, if_neg (by simpa using ha)]
    rfl

theorem closes_eq_false (h : ∀ c ∈ cs, isBracket c = false) : closes cs = false := by
  by_contra hcloses
  obtain ⟨a, b, rfl, -⟩ := closes_eq_true_iff.mp (by simpa using hcloses)
  have hbracket := h ']' (by simp)
  cases hbracket

theorem tagBody?_eq_none (h : ∀ c ∈ cs, isBracket c = false) : tagBody? cs = none := by
  rw [← Option.not_isSome_iff_eq_none, isSome_tagBody?, closes_eq_false h, Bool.and_false]
  exact Bool.false_ne_true

theorem notMem_of_isBracket {c : Char} (h : ∀ c ∈ cs, isBracket c = false)
    (hc : isBracket c = true) : c ∉ cs := by
  intro hmem
  rw [h c hmem] at hc
  cases hc

theorem eq_of_append_bracket (ha : ']' ∉ a) (he : ']' ∉ e) (h : a ++ ']' :: b = e ++ ']' :: f) :
    b = f := by
  have hsplit := congrArg (splitAt ']') h
  rw [splitAt_append_cons, splitAt_append_cons, splitAt_eq_singleton ha, splitAt_eq_singleton he]
    at hsplit
  obtain ⟨rfl, -⟩ := List.cons.inj hsplit
  exact (List.cons.inj (List.append_cancel_left h)).2

theorem escapeChars_append_bracket (ha : '[' ∉ a) (b : List Char) :
    escapeChars (a ++ ']' :: b) = a ++ ']' :: escapeChars b := by
  change closeEscape (escapedTags (a ++ ']' :: b)) = _
  rw [escapedTags_append_bracket ha, closeEscape_append_cons (by decide)]
  rfl

/-- What stands behind the first bracket of escaped text, if that closes a tag, is escaped text. -/
theorem exists_of_escapeChars_eq (h : escapeChars x = a ++ ']' :: b)
    (ha : ∀ c ∈ a, isBracket c = false) : ∃ y, b = escapeChars y := by
  have hcloses : closes x = true := by
    rw [← closes_escapeChars, h]
    exact closes_eq_true_iff.mpr ⟨a, b, rfl, ha⟩
  obtain ⟨e, f, rfl, he⟩ := closes_eq_true_iff.mp hcloses
  rw [escapeChars_append_bracket (notMem_of_isBracket he rfl)] at h
  exact ⟨f, (eq_of_append_bracket (notMem_of_isBracket he rfl) (notMem_of_isBracket ha rfl) h).symm⟩

theorem pieces_unfinished {front body more : List Char} (hfront : front.getLast? ≠ some '\\')
    (hbody : IsBody (body ++ more)) :
    pieces (escapedTags (front ++ '[' :: body) ++ (more ++ [']'])) =
      (pieces front).map escapedOnce ++ [.tag 0 (body ++ more)] := by
  have hbracket : ∀ c ∈ body, isBracket c = false :=
    fun c hc => hbody.isBracket_eq_false (List.mem_append_left _ hc)
  have hself : escapedTags ('[' :: body) = '[' :: body := by
    have hbare := escapedTags_bracket 0 (tagBody?_eq_none hbracket)
    rwa [escapedTags_eq_self (notMem_of_isBracket hbracket rfl)] at hbare
  have hescaped : (escapedTags front).getLast? ≠ some '\\' := by rwa [getLast?_escapedTags]
  have htag : pieces ('[' :: body ++ (more ++ [']'])) = [.tag 0 (body ++ more)] := by
    have hread := pieces_tag 0 (tagBody?_of_isBody hbody [])
    rw [pieces_nil, List.append_assoc] at hread
    exact hread
  rw [escapedTags_append ⟨fun _ => rfl, fun h => absurd h hfront⟩, hself, List.append_assoc,
    pieces_append ⟨fun _ => rfl, fun h => absurd h hescaped⟩, pieces_escapedTags, htag]

end FirstBracket

section Sealed

variable {cs ds rest x : List Char}

/-- Text that closes nothing, not even where its first bracket ends a tag that began before it. -/
structure Sealed (cs : List Char) : Prop where
  whole : NoClosing (pieces cs)
  behind : ∀ a b, cs = a ++ ']' :: b → (∀ c ∈ a, isBracket c = false) → NoClosing (pieces b)

theorem sealed_escapeChars (x : List Char) : Sealed (escapeChars x) := by
  refine ⟨noClosing_escapeChars x, fun a b h ha => ?_⟩
  obtain ⟨y, rfl⟩ := exists_of_escapeChars_eq h ha
  exact noClosing_escapeChars y

theorem Sealed.quiet_append (h : Sealed cs) (hds : Quiet ds) : Sealed (ds ++ cs) := by
  refine ⟨?_, fun a b heq ha => ?_⟩
  · rw [pieces_flat_append hds.flat]
    exact (noClosing_chars ds).append h.whole
  · rcases List.append_eq_append_iff.mp heq with ⟨more, rfl, hcs⟩ | ⟨more, rfl, hmore⟩
    · exact h.behind more b hcs fun c hc => ha c (List.mem_append_right _ hc)
    · cases more with
      | nil => exact h.behind [] b hmore.symm (List.forall_mem_nil _)
      | cons d more =>
        obtain ⟨rfl, -⟩ := List.cons.inj hmore
        have hquiet := hds ']' (by simp)
        cases hquiet

theorem forall_getLast?_of_suffix {p : Char → Prop} (h : ∀ c ∈ x.getLast?, p c)
    (hsuffix : ds <:+ x) : ∀ c ∈ ds.getLast?, p c := by
  obtain ⟨before, rfl⟩ := hsuffix
  intro c hc
  exact h c (by simp [List.getLast?_append, Option.mem_def.mp hc])

/-- A tag that begins behind text without slashes does not begin with one, unless the text is
empty. -/
theorem head?_escapedTags_append (hne : x ≠ []) (hslash : '/' ∉ x) (front : List Char) :
    (escapedTags x ++ front).head? ≠ some '/' := by
  intro hhead
  cases hescaped : escapedTags x with
  | nil =>
    have hnil : x.getLast? = none := by
      rw [← getLast?_escapedTags, hescaped]
      rfl
    exact hne (List.getLast?_eq_none_iff.mp hnil)
  | cons c cs =>
    rw [hescaped] at hhead
    obtain rfl : c = '/' := Option.some.inj hhead
    rcases mem_escapedTags (hescaped ▸ List.mem_cons_self) with hmem | hback
    · exact hslash hmem
    · cases hback

/-- Text without slashes closes nothing together with what follows it, unless it ends in a bracket,
with the tag still to come, or in backslashes, which would go to a tag behind it. -/
theorem noClosing_escapedTags_append (hrest : Sealed rest) (hslash : '/' ∉ x)
    (hlast : ∀ c ∈ x.getLast?, c ≠ '[' ∧ c ≠ '\\') :
    NoClosing (pieces (escapedTags x ++ rest)) := by
  induction x using piecesInduction with
  | backslashes n =>
    cases n with
    | zero =>
      rw [escapedTags_backslashes]
      exact hrest.whole
    | succ n => exact absurd rfl (hlast '\\' (by simp [List.getLast?_replicate])).2
  | tag n more inner after hbody ih =>
    obtain ⟨hinner, rfl⟩ := tagBody?_eq_some hbody
    have hsuffix : after <:+ List.replicate n '\\' ++ '[' :: (inner ++ ']' :: after) :=
      ⟨List.replicate n '\\' ++ '[' :: (inner ++ [']']), by simp⟩
    have hrestless := ih (fun hmem => hslash (hsuffix.subset hmem))
      (forall_getLast?_of_suffix hlast hsuffix)
    rw [escapedTags_tag n hbody, List.append_assoc, List.cons_append, List.append_assoc,
      List.cons_append, pieces_tag _ (tagBody?_of_isBody hinner _)]
    refine List.forall_mem_cons.mpr ⟨fun hclosing => ?_, hrestless⟩
    have heven : (2 * n + 1) % 2 = 0 := hclosing.1
    omega
  | bracket n more hbody ih =>
    have hsuffix : more <:+ List.replicate n '\\' ++ '[' :: more :=
      (List.suffix_cons _ _).trans (List.suffix_append _ _)
    have hmore : '/' ∉ more := fun hmem => hslash (hsuffix.subset hmem)
    rw [escapedTags_bracket n hbody, List.append_assoc, List.cons_append]
    cases hfound : tagBody? (escapedTags more ++ rest) with
    | none =>
      rw [pieces_bracket n hfound]
      exact (noClosing_chars _).append (ih hmore (forall_getLast?_of_suffix hlast hsuffix))
    | some found =>
      -- the tag begins in the one text and ends at the first bracket of the other
      obtain ⟨body, tail⟩ := found
      have hinner := (tagBody?_eq_some hfound).1
      obtain ⟨front, rfl, hsplit⟩ :=
        exists_of_tagBody?_append (tagBody?_escapedTags_of_none hbody) hfound
      rw [pieces_tag n hfound]
      refine List.forall_mem_cons.mpr ⟨fun hclosing => ?_, hrest.behind front tail hsplit ?_⟩
      · have hne : more ≠ [] := by
          rintro rfl
          exact absurd rfl (hlast '[' (by simp)).1
        exact head?_escapedTags_append hne hmore front hclosing.2
      · exact fun c hc => hinner.isBracket_eq_false (List.mem_append_right _ hc)
  | char n c more hback hbracket ih =>
    have hsuffix : more <:+ List.replicate n '\\' ++ c :: more :=
      (List.suffix_cons _ _).trans (List.suffix_append _ _)
    have hrestless := ih (fun hmem => hslash (hsuffix.subset hmem))
      (forall_getLast?_of_suffix hlast hsuffix)
    rw [escapedTags_char n hback hbracket, List.append_assoc, List.cons_append,
      pieces_char n hback hbracket]
    exact (noClosing_chars _).append hrestless

end Sealed

end ScriptProfiling
