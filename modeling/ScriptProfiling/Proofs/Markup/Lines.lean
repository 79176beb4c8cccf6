import ScriptProfiling.Proofs.Markup.Shown
import ScriptProfiling.Proofs.Markup.Parts
import ScriptProfiling.Proofs.Text.Lines

/-!
# Markup read line by line

Read line by line, markup begins each line with no tag open. That comes to the same as reading
it as a whole if no tag goes on from one line to the next and each line closes what it opens.

`Linewise` asks for both: what is shown line by line is what is shown, and the whole can be obeyed
exactly if each line can. Texts of this kind may follow each other. Quiet text is one, a style that
is closed on its line is one, and so is text with escaped brackets (`Marks`), whose lines can be cut
anywhere.
-/
namespace ScriptProfiling

section Stacks

variable {tags left more : List OpenTag} {body : List Char}

theorem closeTag?_append {name : String} {found : OpenTag × List OpenTag}
    (h : closeTag? name tags = some found) (more : List OpenTag) :
    closeTag? name (tags ++ more) = some (found.1, found.2 ++ more) := by
  induction tags generalizing found with
  | nil => cases h
  | cons t tags ih =>
    unfold closeTag? at h
    rw [List.cons_append, closeTag?]
    by_cases hname : t.name = name
    · rw [if_pos hname] at h ⊢
      obtain rfl := Option.some.inj h
      rfl
    · rw [if_neg hname] at h ⊢
      obtain ⟨inner, hinner, rfl⟩ := Option.map_eq_some_iff.mp h
      rw [ih hinner]
      rfl

namespace Reader

theorem closed_append {place : Nat} {found : OpenTag × List OpenTag}
    (h : closed ⟨0, [], [], tags⟩ place body = .ok found) (more : List OpenTag) :
    closed ⟨0, [], [], tags ++ more⟩ place body = .ok (found.1, found.2 ++ more) := by
  unfold closed at h ⊢
  dsimp only at h ⊢
  split at h
  · next hempty =>
    rw [if_pos hempty]
    cases tags with
    | nil => cases h
    | cons t tags =>
      obtain rfl := Except.ok.inj h
      rfl
  · next hempty =>
    rw [if_neg hempty]
    obtain ⟨name, hname, h⟩ := bind_eq_ok.mp h
    refine bind_eq_ok.mpr ⟨name, hname, ?_⟩
    cases hfound : closeTag? name tags with
    | none =>
      rw [hfound] at h
      cases h
    | some inner =>
      rw [hfound] at h
      obtain rfl := pure_eq_ok.mp h
      rw [closeTag?_append hfound]
      rfl

/-- What is wrong with a closing tag other than its name is a fault of markup. -/
theorem cls_closed {place : Nat} {f : Fault} (h : closed ⟨0, [], [], tags⟩ place body = .error f) :
    f.cls = .badMarkup ∨ ∀ more, closed ⟨0, [], [], more⟩ place body = .error f := by
  unfold closed at h ⊢
  dsimp only at h ⊢
  split at h
  · cases tags with
    | nil =>
      obtain rfl := Except.error.inj h
      exact Or.inl rfl
    | cons t tags => cases h
  · next hempty =>
    cases hname : Style.normalName (strip ((tagName body).drop 1)) with
    | error g =>
      rw [hname] at h
      obtain rfl := Except.error.inj h
      exact Or.inr fun more => by rw [if_neg hempty]; rfl
    | ok name =>
      left
      rw [hname, ok_bind] at h
      cases hfound : closeTag? name tags with
      | none =>
        rw [hfound] at h
        obtain rfl := Except.error.inj h
        rfl
      | some found =>
        rw [hfound] at h
        cases h

theorem cls_check {t : OpenTag} {f : Fault} (h : t.check = .error f) : f.cls = .badMarkup := by
  unfold OpenTag.check at h
  split at h
  · cases hcheck : Handler.check t.parameters with
    | ok u =>
      rw [hcheck] at h
      cases h
    | error g =>
      rw [hcheck] at h
      obtain rfl := Except.error.inj h
      rfl
  · cases h

end Reader

namespace Scanner

/-- A tag that can be obeyed touches no tags that were open before the ones it needs. -/
theorem follow_append {escaped : Bool} (h : follow tags escaped body = .ok left)
    (more : List OpenTag) : follow (tags ++ more) escaped body = .ok (left ++ more) := by
  cases escaped with
  | true =>
    obtain rfl := Except.ok.inj h
    rfl
  | false =>
    by_cases hslash : body.head? = some '/'
    · rw [follow_closing hslash] at h ⊢
      obtain ⟨found, hclosed, hchecked⟩ := bind_eq_ok.mp h
      obtain ⟨u, hcheck, rfl⟩ := map_eq_ok.mp hchecked
      rw [Reader.closed_append (mapError_eq_ok.mp hclosed) more]
      exact map_eq_ok.mpr ⟨u, hcheck, rfl⟩
    · rw [follow_opening hslash] at h ⊢
      obtain ⟨name, hname, rfl⟩ := map_eq_ok.mp h
      rw [hname]
      rfl

theorem follow_badValue {escaped : Bool} (h : follow tags escaped body = .error .badValue)
    (more : List OpenTag) : ∃ e, follow more escaped body = .error e := by
  cases escaped with
  | true => cases h
  | false =>
    by_cases hslash : body.head? = some '/'
    · rw [follow_closing hslash] at h ⊢
      cases hclosed : Reader.closed ⟨0, [], [], tags⟩ 0 body with
      | error f =>
        rw [hclosed] at h
        have hcls : f.cls = .badValue := Except.error.inj h
        rcases Reader.cls_closed hclosed with hmarkup | hmore
        · cases hcls.symm.trans hmarkup
        · rw [hmore more]
          exact ⟨f.cls, rfl⟩
      | ok found =>
        rw [hclosed] at h
        change (found.1.check.mapError Fault.cls).map _ = _ at h
        cases hcheck : found.1.check with
        | ok u =>
          rw [hcheck] at h
          cases h
        | error f =>
          rw [hcheck] at h
          have hcls : f.cls = .badValue := Except.error.inj h
          cases hcls.symm.trans (Reader.cls_check hcheck)
    · rw [follow_opening hslash] at h ⊢
      cases hname : Style.normalName (tagName body) with
      | error f => exact ⟨f.cls, rfl⟩
      | ok name =>
        rw [hname] at h
        cases h

end Scanner

variable {ps : List Piece}

theorem foldlM_obey_append (h : ps.foldlM Piece.obey tags = .ok left) (more : List OpenTag) :
    ps.foldlM Piece.obey (tags ++ more) = .ok (left ++ more) := by
  induction ps generalizing tags with
  | nil =>
    obtain rfl := pure_eq_ok.mp h
    rfl
  | cons p ps ih =>
    rw [List.foldlM_cons] at h ⊢
    obtain ⟨next, hp, hrest⟩ := bind_eq_ok.mp h
    have hmore : p.obey (tags ++ more) = .ok (next ++ more) := by
      cases p with
      | char c =>
        obtain rfl := Except.ok.inj hp
        rfl
      | tag escapes body => exact Scanner.follow_append hp more
    rw [hmore]
    exact ih hrest

theorem foldlM_obey_badValue (h : ps.foldlM Piece.obey tags = .error .badValue)
    (more : List OpenTag) : ∃ e, ps.foldlM Piece.obey more = .error e := by
  induction ps generalizing tags more with
  | nil => cases h
  | cons p ps ih =>
    rw [List.foldlM_cons] at h ⊢
    cases hmore : p.obey more with
    | error e => exact ⟨e, rfl⟩
    | ok next =>
      cases hp : p.obey tags with
      | error e =>
        rw [hp] at h
        obtain rfl := Except.error.inj h
        cases p with
        | char c => cases hp
        | tag escapes body =>
          obtain ⟨e, he⟩ := Scanner.follow_badValue hp more
          rw [Piece.obey, he] at hmore
          cases hmore
      | ok other =>
        rw [hp] at h
        exact ih h next

end Stacks

section Linewise

variable {cs ds line : List Char}

/-- The lines of a text that begins with a line end. -/
def linesOf (cs : List Char) : List (List Char) := (splitAt '\n' cs).tail

theorem linesOf_cons (cs : List Char) : linesOf ('\n' :: cs) = splitAt '\n' cs := by
  have hcut := splitAt_append_cons '\n' [] cs
  rw [List.nil_append] at hcut
  rw [linesOf, hcut]
  rfl

theorem linesOf_append (hds : AtLineEnd ds) : linesOf (cs ++ ds) = linesOf cs ++ linesOf ds := by
  rcases hds.eq_nil_or_cons with rfl | ⟨more, rfl⟩
  · rw [List.append_nil]
    exact (List.append_nil _).symm
  · rw [linesOf_cons, linesOf, splitAt_append_cons, List.tail_append_of_ne_nil (splitAt_ne_nil _ _)]
    rfl

/-- Markup that can be read exactly if each of its lines can, and then shows what they show. -/
structure Linewise (cs : List Char) : Prop where
  shown : display (pieces cs) = (linesOf cs).flatMap fun line => '\n' :: display (pieces line)
  obeyed : ∀ tags, (∃ left, (pieces cs).foldlM Piece.obey tags = .ok left) ↔
    ∀ line ∈ linesOf cs, ∃ left, (pieces line).foldlM Piece.obey [] = .ok left

theorem linewise_nil : Linewise [] := by
  refine ⟨by rw [pieces_nil]; rfl, fun tags => ?_⟩
  rw [pieces_nil]
  exact ⟨fun _ => nofun, fun _ => ⟨tags, rfl⟩⟩

theorem Linewise.append (h : Linewise cs) (hmore : Linewise ds) (hds : AtLineEnd ds)
    (htag : unfinished cs = true → closes ds = false) : Linewise (cs ++ ds) := by
  have hapart : Apart cs ds := by
    refine ⟨htag, fun _ => ?_⟩
    rcases hds.eq_nil_or_cons with rfl | ⟨rest, rfl⟩
    · exact ⟨nofun, nofun⟩
    · exact ⟨by simp, by simp⟩
  constructor
  · rw [pieces_append hapart, display_append fun _ => hds.head?_pieces, h.shown, hmore.shown,
      linesOf_append hds, List.flatMap_append]
  · intro tags
    rw [pieces_append hapart, List.foldlM_append, linesOf_append hds, List.forall_mem_append,
      ← h.obeyed tags]
    constructor
    · rintro ⟨left, hall⟩
      obtain ⟨next, hfirst, hrest⟩ := bind_eq_ok.mp hall
      exact ⟨⟨next, hfirst⟩, (hmore.obeyed next).mp ⟨left, hrest⟩⟩
    · rintro ⟨⟨next, hfirst⟩, hrest⟩
      obtain ⟨left, hleft⟩ := (hmore.obeyed next).mpr hrest
      exact ⟨left, bind_eq_ok.mpr ⟨next, hfirst, hleft⟩⟩

/-- A single line, if nothing but the name of a tag can be wrong in it. -/
theorem linewise_line (hline : '\n' ∉ line)
    (hfaults : ∀ e, (pieces line).foldlM Piece.obey [] = .error e → e = .badValue) :
    Linewise ('\n' :: line) := by
  have hone : linesOf ('\n' :: line) = [line] := by
    rw [linesOf_cons, splitAt_eq_singleton hline]
  have hpieces : ∀ tags, (pieces ('\n' :: line)).foldlM Piece.obey tags =
      (pieces line).foldlM Piece.obey tags := by
    intro tags
    rw [pieces_lineEnd]
    rfl
  constructor
  · rw [display_lineEnd, hone, List.flatMap_singleton]
  · intro tags
    rw [hpieces, hone, List.forall_mem_singleton]
    constructor
    · rintro ⟨left, hleft⟩
      cases halone : (pieces line).foldlM Piece.obey [] with
      | ok next => exact ⟨next, rfl⟩
      | error e =>
        obtain rfl := hfaults e halone
        obtain ⟨e, he⟩ := foldlM_obey_badValue halone tags
        rw [hleft] at he
        cases he
    · rintro ⟨left, hleft⟩
      exact ⟨left ++ tags, foldlM_obey_append hleft tags⟩

theorem linewise_of_map {x : List Char} (hstill : Still (pieces ('\n' :: cs)))
    (hshown : display (pieces ('\n' :: cs)) = '\n' :: x)
    (hlines : (splitAt '\n' cs).map (fun line => display (pieces line)) = splitAt '\n' x)
    (hstills : ∀ line ∈ splitAt '\n' cs, Still (pieces line)) : Linewise ('\n' :: cs) := by
  have hcut : '\n' :: x = (splitAt '\n' cs).flatMap fun line => '\n' :: display (pieces line) := by
    rw [← flatMap_splitAt, ← hlines, List.flatMap_map]
  constructor
  · rw [hshown, linesOf_cons, hcut]
  · intro tags
    rw [linesOf_cons]
    exact ⟨fun _ line hline => ⟨[], (hstills line hline).foldlM_eq []⟩,
      fun _ => ⟨tags, hstill.foldlM_eq tags⟩⟩

theorem linewise_flat (h : Flat cs) : Linewise ('\n' :: cs) := by
  have hlines : ∀ line ∈ splitAt '\n' cs, Flat line := fun line hline c hc =>
    h c (((splitAt_pieces '\n' cs).2 line hline).subset hc)
  have hwhole : Flat ('\n' :: cs) := List.forall_mem_cons.mpr ⟨by decide, h⟩
  refine linewise_of_map ?_ hwhole.display_eq ?_ fun line hline => ?_
  · rw [hwhole.pieces_eq]
    exact still_chars _
  · have hsame : ∀ line ∈ splitAt '\n' cs, display (pieces line) = line :=
      fun line hline => (hlines line hline).display_eq
    exact (List.map_congr_left hsame).trans (List.map_id _)
  · rw [(hlines line hline).pieces_eq]
    exact still_chars _

end Linewise

section Marks

variable {e x : List Char}

/-- Text without backslashes, some of whose brackets are escaped: all those that begin a tag,
and perhaps others. Its lines are again such texts. -/
inductive Marks : List Char → List Char → Prop
  | nil : Marks [] []
  | char {c : Char} {e x : List Char} (hbracket : c ≠ '[') (hslash : c ≠ '\\') (h : Marks e x) :
      Marks (c :: e) (c :: x)
  | marked {e x : List Char} (h : Marks e x) : Marks ('\\' :: '[' :: e) ('[' :: x)
  | bare {e x : List Char} (hnone : tagBody? e = none) (h : Marks e x) :
      Marks ('[' :: e) ('[' :: x)

theorem Marks.flat_append (h : Marks e x) {cs : List Char} (hcs : Flat cs) :
    Marks (cs ++ e) (cs ++ x) := by
  induction cs with
  | nil => exact h
  | cons c cs ih =>
    obtain ⟨hc, hcs⟩ := List.forall_mem_cons.mp hcs
    exact .char hc.1 hc.2 (ih hcs)

theorem marks_escapedTags (h : '\\' ∉ x) : Marks (escapedTags x) x := by
  have hzero : ∀ {n : Nat} {cs : List Char}, '\\' ∉ List.replicate n '\\' ++ cs → n = 0 := by
    intro n cs hnot
    by_contra hn
    exact hnot (List.mem_append_left _ (List.mem_replicate.mpr ⟨hn, rfl⟩))
  induction x using piecesInduction with
  | backslashes n =>
    rw [← List.append_nil (List.replicate n '\\')] at h
    obtain rfl := hzero h
    rw [escapedTags_backslashes]
    exact .nil
  | tag n more inner rest hbody ih =>
    obtain rfl := hzero h
    obtain ⟨hinner, rfl⟩ := tagBody?_eq_some hbody
    rw [escapedTags_tag 0 hbody]
    simp only [List.replicate_zero, List.nil_append, List.mem_cons, List.mem_append, not_or] at h
    have hflat : Flat (inner ++ [']']) := by
      refine List.forall_mem_append.mpr ⟨fun c hc => ⟨?_, ?_⟩, by simp⟩
      · rintro rfl
        exact absurd (hinner.isBracket_eq_false hc) (by decide)
      · rintro rfl
        exact h.2.1 hc
    have hmarks := (ih h.2.2.2).flat_append hflat
    rw [List.append_assoc, List.append_assoc] at hmarks
    exact .marked hmarks
  | bracket n more hbody ih =>
    obtain rfl := hzero h
    rw [escapedTags_bracket 0 hbody]
    exact .bare (tagBody?_escapedTags_of_none hbody) (ih fun hmem => h (by simp [hmem]))
  | char n c more hslash hbracket ih =>
    obtain rfl := hzero h
    rw [escapedTags_char 0 hslash hbracket]
    exact .char hbracket hslash (ih fun hmem => h (by simp [hmem]))

theorem Marks.of_tag {inner rest : List Char} (hall : ∀ c ∈ inner, isBracket c = false)
    (h : Marks (inner ++ ']' :: rest) x) : ∃ y, x = inner ++ ']' :: y ∧ Marks rest y := by
  induction inner generalizing x with
  | nil =>
    cases h with
    | char hbracket hslash h => exact ⟨_, rfl, h⟩
  | cons c inner ih =>
    obtain ⟨hc, hinner⟩ := List.forall_mem_cons.mp hall
    rw [List.cons_append] at h
    generalize hmore : inner ++ ']' :: rest = more at h ih
    cases h with
    | char hbracket hslash h =>
      obtain ⟨y, rfl, hy⟩ := ih hinner h
      exact ⟨y, rfl, hy⟩
    | marked h =>
      cases inner with
      | nil => cases hmore
      | cons d inner =>
        obtain ⟨rfl, -⟩ := List.cons.inj hmore
        exact absurd (hall '[' (List.mem_cons_of_mem _ List.mem_cons_self)) (by decide)
    | bare hnone h => cases hc

theorem Marks.reads (h : Marks e x) : display (pieces e) = x ∧ Still (pieces e) := by
  have hchar : ∀ {c : Char} {ps : List Piece}, c ≠ '\\' →
      display (.char c :: ps) = c :: display ps := by
    intro c ps hc
    simp [display, Piece.shown, hc]
  have hstill : ∀ {c : Char} {ps : List Piece}, Still ps → Still (.char c :: ps) := fun hps =>
    (still_chars [_]).append hps
  induction hlength : e.length using Nat.strong_induction_on generalizing e x with
  | _ length ih =>
    cases h with
    | nil =>
      rw [pieces_nil]
      exact ⟨rfl, still_chars []⟩
    | @char c e x hbracket hslash h =>
      obtain ⟨hshown, hps⟩ := ih e.length (by rw [← hlength, List.length_cons]; omega) h rfl
      rw [pieces_cons hslash hbracket]
      exact ⟨(hchar hslash).trans (congrArg _ hshown), hstill hps⟩
    | @bare e x hnone h =>
      obtain ⟨hshown, hps⟩ := ih e.length (by rw [← hlength, List.length_cons]; omega) h rfl
      have hone := pieces_bracket 0 hnone
      rw [List.replicate_zero, List.nil_append] at hone
      rw [hone]
      exact ⟨(hchar (by decide)).trans (congrArg _ hshown), hstill hps⟩
    | @marked e x h =>
      cases hbody : tagBody? e with
      | none =>
        have hshorter : e.length < length := by
          rw [← hlength, List.length_cons, List.length_cons]
          omega
        obtain ⟨hshown, hps⟩ := ih e.length hshorter h rfl
        have hone : pieces ('\\' :: '[' :: e) = .char '\\' :: .char '[' :: pieces e :=
          pieces_bracket 1 hbody
        have hhidden : display (.char '\\' :: .char '[' :: pieces e) =
            display (.char '[' :: pieces e) := by
          simp [display]
        rw [hone, hhidden]
        exact ⟨(hchar (by decide)).trans (congrArg _ hshown), hstill (hstill hps)⟩
      | some found =>
        obtain ⟨inner, rest⟩ := found
        obtain ⟨hinner, rfl⟩ := tagBody?_eq_some hbody
        obtain ⟨y, rfl, hy⟩ := h.of_tag fun c hc => hinner.isBracket_eq_false hc
        obtain ⟨hshown, hps⟩ := ih rest.length (by rw [← hlength]; simp; omega) hy rfl
        have hone : pieces ('\\' :: '[' :: (inner ++ ']' :: rest)) = .tag 1 inner :: pieces rest :=
          pieces_tag 1 hbody
        rw [hone]
        refine ⟨by simp [display, Piece.shown, hshown],
          List.forall_mem_cons.mpr ⟨fun tags => ?_, hps⟩⟩
        simp [Piece.obey, Scanner.follow]

theorem Marks.lines (h : Marks e x) : List.Forall₂ Marks (splitAt '\n' e) (splitAt '\n' x) := by
  induction h with
  | nil => exact .cons .nil .nil
  | @char c e x hbracket hslash h ih =>
    obtain ⟨p, rest, hp⟩ := List.exists_cons_of_ne_nil (splitAt_ne_nil '\n' e)
    obtain ⟨q, rest', hq⟩ := List.exists_cons_of_ne_nil (splitAt_ne_nil '\n' x)
    rw [hp, hq] at ih
    obtain ⟨hfirst, hrest⟩ := List.forall₂_cons.mp ih
    rw [splitAt, splitAt, hp, hq]
    dsimp only
    split
    · exact .cons .nil (.cons hfirst hrest)
    · exact .cons (.char hbracket hslash hfirst) hrest
  | @marked e x h ih =>
    obtain ⟨p, rest, hp⟩ := List.exists_cons_of_ne_nil (splitAt_ne_nil '\n' e)
    obtain ⟨q, rest', hq⟩ := List.exists_cons_of_ne_nil (splitAt_ne_nil '\n' x)
    rw [hp, hq] at ih
    obtain ⟨hfirst, hrest⟩ := List.forall₂_cons.mp ih
    have hcut : splitAt '\n' ('\\' :: '[' :: e) = ('\\' :: '[' :: p) :: rest := by
      simp [splitAt, hp]
    have hcut' : splitAt '\n' ('[' :: x) = ('[' :: q) :: rest' := by simp [splitAt, hq]
    rw [hcut, hcut']
    exact .cons (.marked hfirst) hrest
  | @bare e x hnone h ih =>
    obtain ⟨p, rest, hp⟩ := List.exists_cons_of_ne_nil (splitAt_ne_nil '\n' e)
    obtain ⟨q, rest', hq⟩ := List.exists_cons_of_ne_nil (splitAt_ne_nil '\n' x)
    have hprefix : p <+: e := (splitAt_pieces '\n' e).1 p (by rw [hp]; rfl)
    rw [hp, hq] at ih
    obtain ⟨hfirst, hrest⟩ := List.forall₂_cons.mp ih
    have hcut : splitAt '\n' ('[' :: e) = ('[' :: p) :: rest := by simp [splitAt, hp]
    have hcut' : splitAt '\n' ('[' :: x) = ('[' :: q) :: rest' := by simp [splitAt, hq]
    have hfirstNone : tagBody? p = none := by
      cases hbody : tagBody? p with
      | none => rfl
      | some found =>
        obtain ⟨after, rfl⟩ := hprefix
        rw [tagBody?_append_of_some hbody after] at hnone
        cases hnone
    rw [hcut, hcut']
    exact .cons (.bare hfirstNone hfirst) hrest

/-- Text whose brackets are escaped is read line by line, however many lines it has. -/
theorem linewise_marks (h : Marks e x) : Linewise ('\n' :: e) := by
  have hwhole : Marks ('\n' :: e) ('\n' :: x) := .char (by decide) (by decide) h
  have hall : ∀ {ls ms : List (List Char)}, List.Forall₂ Marks ls ms →
      ls.map (fun line => display (pieces line)) = ms ∧ ∀ line ∈ ls, Still (pieces line) := by
    intro ls ms hlines
    induction hlines with
    | nil => exact ⟨rfl, nofun⟩
    | cons hline _ ih =>
      refine ⟨?_, List.forall_mem_cons.mpr ⟨hline.reads.2, ih.2⟩⟩
      rw [List.map_cons, hline.reads.1, ih.1]
  obtain ⟨hshown, hstill⟩ := hall h.lines
  exact linewise_of_map hwhole.reads.2 hwhole.reads.1 hshown hstill

end Marks

section Texts

variable {s plain : String}

theorem mem_of_mem_display {ps : List Piece} {c : Char} (h : c ∈ display ps) :
    c ∈ ps.flatMap Piece.source := by
  induction ps with
  | nil => cases h
  | cons p ps ih =>
    rw [display] at h
    rw [List.flatMap_cons]
    rcases List.mem_append.mp h with h | h
    · refine List.mem_append_left _ ?_
      split at h
      · cases h
      · cases p with
        | char d => exact h
        | tag escapes body =>
          unfold Piece.shown at h
          unfold Piece.source
          rcases List.mem_append.mp h with h | h
          · obtain ⟨hne, rfl⟩ := List.mem_replicate.mp h
            exact List.mem_append_left _
              (List.mem_append_left _ (List.mem_replicate.mpr ⟨by omega, rfl⟩))
          · split at h
            · simpa using Or.inr (by simpa using h)
            · cases h
    · exact List.mem_append_right _ (ih h)

theorem notMem_visible_display {c : Char} {cs : List Char} (h : c ∉ cs) :
    c ∉ visible (display (pieces cs)) := by
  intro hmem
  have hdisplay := mem_of_mem_display (List.mem_of_mem_filter hmem)
  rw [flatMap_source_pieces] at hdisplay
  exact h hdisplay

/-- Text that is read line by line can be read exactly if each of its lines can. -/
theorem Linewise.stripMarkup_iff (h : Linewise ('\n' :: s.toList)) :
    (∃ plain, stripMarkup s = .ok plain) ↔
      ∀ line ∈ splitLines s, ∃ plain, stripMarkup line = .ok plain := by
  have hread : ∀ t : String, (∃ plain, stripMarkup t = .ok plain) ↔
      ∃ left, (pieces t.toList).foldlM Piece.obey [] = .ok left := by
    intro t
    simp only [stripMarkup_eq_ok_iff]
    constructor
    · rintro ⟨plain, hobeyed, -⟩
      exact hobeyed
    · intro hobeyed
      exact ⟨String.ofList _, hobeyed, String.toList_ofList⟩
  have hall := h.obeyed []
  rw [pieces_lineEnd, linesOf_cons] at hall
  rw [hread]
  refine hall.trans ?_
  simp only [splitLines, List.forall_mem_map, hread, String.toList_ofList]

theorem Linewise.mapM_stripMarkup (h : Linewise ('\n' :: s.toList))
    (hplain : stripMarkup s = .ok plain) :
    (splitLines s).mapM stripMarkup = .ok (splitLines plain) := by
  have hlines := h.stripMarkup_iff.mp ⟨plain, hplain⟩
  have hshown : visible ('\n' :: display (pieces s.toList)) =
      (splitAt '\n' s.toList).flatMap fun line => '\n' :: visible (display (pieces line)) := by
    have hline : ∀ cs, visible ('\n' :: cs) = '\n' :: visible cs :=
      visible_cons_of_not (by decide)
    rw [← display_lineEnd, h.shown, linesOf_cons, visible, List.filter_flatMap]
    exact List.flatMap_congr fun line _ => hline _
  have hcut : splitAt '\n' plain.toList =
      (splitAt '\n' s.toList).map fun line => visible (display (pieces line)) := by
    refine splitAt_of_flatMap ?_ fun piece hpiece => ?_
    · rw [(stripMarkup_eq_ok_iff.mp hplain).2, List.flatMap_map, ← hshown,
        visible_cons_of_not (by decide)]
    · obtain ⟨line, hline, rfl⟩ := List.mem_map.mp hpiece
      exact notMem_visible_display (not_mem_of_mem_splitAt hline)
  have hread : ∀ line ∈ splitLines s,
      stripMarkup line = .ok (String.ofList (visible (display (pieces line.toList)))) := by
    intro line hline
    obtain ⟨text, htext⟩ := hlines line hline
    rw [htext, ← (stripMarkup_eq_ok_iff.mp htext).2, String.ofList_toList]
  have hsame : splitLines plain =
      (splitLines s).map fun line => String.ofList (visible (display (pieces line.toList))) := by
    rw [splitLines, hcut, splitLines, List.map_map, List.map_map]
    exact List.map_congr_left fun line _ => by simp
  rw [hsame]
  exact mapM_eq_ok hread

end Texts

end ScriptProfiling
