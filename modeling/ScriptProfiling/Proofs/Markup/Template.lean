import ScriptProfiling.Proofs.Markup.Escape

/-!
# The text of a template

Between texts that are escaped a template has quiet text, which neither begins nor ends nor
escapes a tag, and tags of its own. Those it opens where nothing escapes them. A closing tag
stands behind any text: whatever that has left under way ends at its bracket, and a
backslash can at most turn it into text.

Quiet text may have line ends in it. What the template itself has to say is tame, which is quiet
and on one line.
-/
namespace ScriptProfiling

def isQuiet (c : Char) : Bool := !isBracket c && !isBackslash c

def Quiet (cs : List Char) : Prop := ∀ c ∈ cs, isQuiet c = true

instance (cs : List Char) : Decidable (Quiet cs) := List.decidableBAll _ cs

@[simp] theorem quiet_append {s t : String} :
    Quiet (s ++ t).toList ↔ Quiet s.toList ∧ Quiet t.toList := by
  rw [String.toList_append]
  exact List.forall_mem_append

def isTame (c : Char) : Bool := isQuiet c && c != '\n'

def Tame (cs : List Char) : Prop := ∀ c ∈ cs, isTame c = true

instance (cs : List Char) : Decidable (Tame cs) := List.decidableBAll _ cs

section Tame

variable {cs : List Char}

theorem Tame.quiet (h : Tame cs) : Quiet cs := fun c hc => (Bool.and_eq_true_iff.mp (h c hc)).1

theorem Tame.oneLine (h : Tame cs) : '\n' ∉ cs := fun hend => absurd (h '\n' hend) (by decide)

theorem quiet_of_tame {ls : List String} (h : ∀ l ∈ ls, Tame l.toList) :
    ∀ l ∈ ls, Quiet l.toList := fun l hl => (h l hl).quiet

@[simp] theorem tame_append {s t : String} :
    Tame (s ++ t).toList ↔ Tame s.toList ∧ Tame t.toList := by
  rw [String.toList_append]
  exact List.forall_mem_append

theorem tame_replicate {c : Char} (h : isTame c = true) (n : Nat) : Tame (List.replicate n c) :=
  fun _ hd => List.eq_of_mem_replicate hd ▸ h

/-- A fixed text is given by its characters, so none has to be decoded. -/
theorem tame_ofList (h : cs.all isTame = true) : Tame (String.ofList cs).toList := by
  rw [String.toList_ofList]
  exact List.all_eq_true.mp h

end Tame

/-- The name of a style that is opened and closed under that name. -/
structure IsStyle (style : String) : Prop where
  body : IsBody style.toList
  opening : style.toList.head? ≠ some '/'
  whole : tagName style.toList = style.toList
  stripped : strip style.toList = style.toList
  normal : (Style.normalName style.toList).toOption = some style
  noHandler : style.startsWith "@" = false

instance (style : String) : Decidable (IsStyle style) :=
  decidable_of_iff (IsBody style.toList ∧ style.toList.head? ≠ some '/' ∧
      tagName style.toList = style.toList ∧ strip style.toList = style.toList ∧
      (Style.normalName style.toList).toOption = some style ∧ style.startsWith "@" = false)
    ⟨fun ⟨body, opening, whole, stripped, normal, noHandler⟩ =>
      ⟨body, opening, whole, stripped, normal, noHandler⟩,
    fun ⟨body, opening, whole, stripped, normal, noHandler⟩ =>
      ⟨body, opening, whole, stripped, normal, noHandler⟩⟩

namespace Scanner

variable {loose : Prop} {kept : List OpenTag} {cs : List Char}

section Quiet

/-- What quiet text does to a scanner: a tag under way becomes longer or comes to nothing. -/
structure Undisturbed (s t : Scanner) : Prop where
  tags : t.tags = s.tags
  candidate : t.candidate = none ∨
    ∃ k more, s.candidate = some k ∧ t.candidate = some ⟨k.escaped, more ++ k.body⟩

theorem Undisturbed.refl (s : Scanner) : Undisturbed s s := by
  refine ⟨rfl, ?_⟩
  cases hs : s.candidate with
  | none => exact Or.inl rfl
  | some k => exact Or.inr ⟨k, [], rfl, rfl⟩

theorem Undisturbed.trans {s t u : Scanner} (hst : Undisturbed s t) (htu : Undisturbed t u) :
    Undisturbed s u := by
  refine ⟨htu.tags.trans hst.tags, htu.candidate.imp_right ?_⟩
  rintro ⟨k, more, hk, hu⟩
  rcases hst.candidate with hnone | ⟨j, before, hj, ht⟩
  · rw [hnone] at hk
    cases hk
  · obtain rfl := Option.some.inj (hk.symm.trans ht)
    exact ⟨j, more ++ before, hj, by rw [hu, List.append_assoc]⟩

theorem Undisturbed.keeps {s t : Scanner} (h : Undisturbed s t) (hs : Keeps kept s) :
    Keeps kept t := by
  unfold Keeps
  rw [h.tags]
  exact hs

theorem Undisturbed.idle {s t : Scanner} (h : Undisturbed s t) (hs : s.candidate = none) :
    t.candidate = none := by
  rcases h.candidate with hnone | ⟨k, more, hk, -⟩
  · exact hnone
  · rw [hs] at hk
    cases hk

theorem Undisturbed.calm {s t : Scanner} (h : Undisturbed s t) (hs : Calm loose s) :
    Calm loose t := by
  rcases h.candidate with hnone | ⟨k, more, hk, ht⟩
  · exact calm_of_candidate hnone
  · intro j hj
    obtain rfl := Option.some.inj (hj.symm.trans ht)
    obtain ⟨hloose, c, hc, hslash⟩ := hs k hk
    exact ⟨hloose, c, by simp [List.getLast?_append, hc], hslash⟩

theorem exists_step_quiet {c : Char} (hc : isQuiet c = true) (s : Scanner) :
    ∃ t, s.step c = .ok t ∧ Undisturbed s t ∧ t.odd = false := by
  have hne : (c ≠ '[' ∧ c ≠ ']') ∧ isBackslash c = false := by
    simpa [isQuiet, isBracket] using hc
  obtain ⟨⟨hopen, hclose⟩, hslash⟩ := hne
  obtain ⟨odd, candidate, tags⟩ := s
  unfold step
  simp only [hopen, hclose, hslash, if_false, Bool.false_and]
  rcases candidate with _ | ⟨escaped, _ | ⟨d, body⟩⟩
  · exact ⟨_, rfl, ⟨rfl, Or.inl rfl⟩, rfl⟩
  · refine ⟨_, rfl, ⟨rfl, ?_⟩, rfl⟩
    cases opensTag c with
    | false => exact Or.inl rfl
    | true => exact Or.inr ⟨_, [c], rfl, rfl⟩
  · exact ⟨_, rfl, ⟨rfl, Or.inr ⟨_, [c], rfl, rfl⟩⟩, rfl⟩

theorem exists_run_quiet (h : Quiet cs) (s : Scanner) :
    ∃ t, s.run cs = .ok t ∧ Undisturbed s t ∧ t.odd = (s.odd && cs.isEmpty) := by
  induction cs generalizing s with
  | nil => exact ⟨s, rfl, .refl s, by simp⟩
  | cons c cs ih =>
    obtain ⟨hc, hcs⟩ := List.forall_mem_cons.mp h
    obtain ⟨t, hstep, hst, hodd⟩ := exists_step_quiet hc s
    obtain ⟨u, hrun, htu, hu⟩ := ih hcs t
    refine ⟨u, ?_, hst.trans htu, by rw [hu, hodd]; simp⟩
    rw [run_cons, hstep]
    exact hrun

theorem reads_quiet (h : Quiet cs) : Reads loose (Keeps kept) cs (Keeps kept) := by
  refine ⟨fun s hs => ?_⟩
  obtain ⟨t, hrun, hst, -⟩ := exists_run_quiet h s
  rw [hrun]
  exact hst.keeps hs

/-- A backslash before quiet text escapes nothing behind it. -/
theorem reads_quiet_even (h : Quiet cs) (hne : cs ≠ []) :
    Reads loose (Keeps kept) cs (Even kept) := by
  refine ⟨fun s hs => ?_⟩
  obtain ⟨t, hrun, hst, hodd⟩ := exists_run_quiet h s
  rw [hrun]
  exact ⟨by rw [hodd, List.isEmpty_eq_false_iff.mpr hne, Bool.and_false], hst.keeps hs⟩

theorem reads_quiet_ready (h : Quiet cs) :
    Reads loose (Ready loose kept) cs (Ready loose kept) := by
  refine ⟨fun s hs => ?_⟩
  obtain ⟨t, hrun, hst, hodd⟩ := exists_run_quiet h s
  rw [hrun]
  exact ⟨⟨by rw [hodd, hs.odd, Bool.false_and], hst.keeps hs.kept⟩, hst.calm hs.calm⟩

theorem reads_quiet_idle (h : Quiet cs) : Reads loose (Idle kept) cs (Idle kept) := by
  refine ⟨fun s hs => ?_⟩
  obtain ⟨t, hrun, hst, hodd⟩ := exists_run_quiet h s
  rw [hrun]
  exact ⟨⟨by rw [hodd, hs.odd, Bool.false_and], hst.keeps hs.kept⟩, hst.idle hs.candidate⟩

end Quiet

section Style

variable {style : String}

theorem run_bracket (s : Scanner) (cs : List Char) :
    s.run ('[' :: cs) = run ⟨false, some ⟨s.odd, []⟩, s.tags⟩ cs := rfl

theorem run_whole_tag {body : List Char} (h : IsBody body) (s : Scanner) :
    s.run ('[' :: (body ++ [']'])) = (follow s.tags s.odd body).map (⟨false, none, ·⟩) := by
  rw [run_bracket, run_tag h]
  cases follow s.tags s.odd body <;> rfl

theorem follow_style (h : IsStyle style) (tags : List OpenTag) :
    follow tags false style.toList = .ok (⟨style, []⟩ :: tags) := by
  have hparameters : tagParameters style.toList = [] := by
    rw [tagParameters, h.whole]
    simp
  rw [follow_opening h.opening, h.whole, toOption_eq_some.mp h.normal, hparameters]
  rfl

theorem reads_open (h : IsStyle style) :
    Reads loose (Even kept) ('[' :: (style.toList ++ [']'])) (Idle (⟨style, []⟩ :: kept)) := by
  refine ⟨fun s hs => ?_⟩
  rw [run_whole_tag h.body, hs.odd, follow_style h]
  exact ⟨⟨rfl, List.cons_subset_cons _ hs.kept⟩, rfl⟩

theorem exists_closeTag? {name : String} {tags : List OpenTag} (h : ∃ t ∈ tags, t.name = name) :
    ∃ found, closeTag? name tags = some found ∧ found.1.name = name := by
  induction tags with
  | nil => obtain ⟨t, ht, -⟩ := h; cases ht
  | cons t tags ih =>
    unfold closeTag?
    by_cases ht : t.name = name
    · exact ⟨(t, tags), if_pos ht, ht⟩
    · obtain ⟨u, hu, hname⟩ := h
      have hrest : u ∈ tags := (List.mem_cons.mp hu).resolve_left fun heq => ht (heq ▸ hname)
      obtain ⟨found, hfound, hclosed⟩ := ih ⟨u, hrest, hname⟩
      refine ⟨(found.1, t :: found.2), ?_, hclosed⟩
      rw [if_neg ht, hfound]
      rfl

theorem closed_close (h : IsStyle style) (tags : List OpenTag) :
    (Reader.closed ⟨0, [], [], tags⟩ 0 ('/' :: style.toList)).toOption = closeTag? style tags := by
  have hname : strip ((tagName ('/' :: style.toList)).drop 1) = style.toList := by
    have hslash : tagName ('/' :: style.toList) = '/' :: tagName style.toList := rfl
    rw [hslash, h.whole, List.drop_one, List.tail_cons, h.stripped]
  have hne : style.toList.isEmpty = false := by
    obtain ⟨c, inner, hbody, -⟩ := h.body
    rw [hbody]
    rfl
  unfold Reader.closed
  simp only [hname, hne, Bool.false_eq_true, if_false, toOption_eq_some.mp h.normal, bind,
    Except.bind]
  cases closeTag? style tags <;> rfl

theorem follow_close (h : IsStyle style) {tags : List OpenTag} {found : OpenTag × List OpenTag}
    (hfound : closeTag? style tags = some found) (hclosed : found.1.name = style) :
    follow tags false ('/' :: style.toList) = .ok found.2 := by
  have hcheck : found.1.check = .ok () := by
    rw [OpenTag.check, hclosed, h.noHandler]
    rfl
  have hend : Reader.closed ⟨0, [], [], tags⟩ 0 ('/' :: style.toList) = .ok found :=
    toOption_eq_some.mp ((closed_close h tags).trans hfound)
  rw [follow_closing List.head?_cons, hend]
  change (found.1.check.mapError Fault.cls).map _ = _
  rw [hcheck]
  rfl

theorem exists_follow_close_nil (h : IsStyle style) :
    ∃ e, follow [] false ('/' :: style.toList) = .error e := by
  have hnone : (Reader.closed ⟨0, [], [], []⟩ 0 ('/' :: style.toList)).toOption = none :=
    closed_close h []
  rw [follow_closing List.head?_cons]
  cases hclosed : Reader.closed ⟨0, [], [], []⟩ 0 ('/' :: style.toList) with
  | error f => exact ⟨f.cls, rfl⟩
  | ok found =>
    rw [hclosed] at hnone
    cases hnone

theorem exists_follow_close (h : IsStyle style) {tags : List OpenTag}
    (hopen : ⟨style, []⟩ ∈ tags) (escaped : Bool) :
    ∃ left, follow tags escaped ('/' :: style.toList) = .ok left := by
  cases escaped with
  | true => exact ⟨tags, rfl⟩
  | false =>
    obtain ⟨found, hfound, hclosed⟩ := exists_closeTag? ⟨_, hopen, rfl⟩
    exact ⟨found.2, follow_close h hfound hclosed⟩

theorem isBody_close (h : IsStyle style) : IsBody ('/' :: style.toList) :=
  ⟨'/', style.toList, rfl, rfl, fun _ hc => h.body.isBracket_eq_false hc⟩

/-- Whatever stands before it, the tag that closes an open style does no harm. -/
theorem reads_close (h : IsStyle style) :
    Reads loose (Keeps [⟨style, []⟩]) ('[' :: ('/' :: style.toList ++ [']'])) (Idle []) := by
  refine ⟨fun s hs => ?_⟩
  obtain ⟨left, hleft⟩ := exists_follow_close h (hs List.mem_cons_self) s.odd
  rw [run_whole_tag (isBody_close h), hleft]
  exact ⟨⟨rfl, List.nil_subset _⟩, rfl⟩

end Style

end Scanner
end ScriptProfiling
