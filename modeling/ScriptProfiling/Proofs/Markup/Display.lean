import ScriptProfiling.Proofs.Markup.Scanner

/-!
# What markup shows

Two things are read off the pieces of a text: what they show, and which tags they obey. A
text can be cut in two wherever no tag goes on from one part into the other, and no
backslash at the end of the one stands before a bracket in the other.

`display` and `Piece.obey` go over the pieces one at a time, while the reader collects runs of plain
characters. The two agree on what comes through, and when they do not come through they fail alike,
so everything behind this module is said of pieces. What a terminal obeys is dropped last.
-/
namespace ScriptProfiling

section Cuts

/-- Whether what stands behind an opening bracket may still become a tag. -/
def goesOn (cs : List Char) : Bool := cs.all (!isBracket ·) && cs.head?.all opensTag

/-- Whether a text ends in a tag that has begun and is not closed. -/
def unfinished : List Char → Bool
  | [] => false
  | c :: cs => (c == '[' && goesOn cs) || unfinished cs

variable {cs ds body rest : List Char}

theorem closes_append (cs ds : List Char) :
    closes (cs ++ ds) = if cs.any isBracket then closes cs else closes ds := by
  induction cs with
  | nil => rfl
  | cons c cs ih =>
    cases hc : isBracket c with
    | true => simp [closes, hc]
    | false => simp [closes, hc, ih]

theorem isBracket_of_opensTag {c : Char} (h : opensTag c = true) : isBracket c = false :=
  IsBody.isBracket_eq_false ⟨c, [], rfl, h, nofun⟩ List.mem_cons_self

theorem isSome_tagBody? (cs : List Char) :
    (tagBody? cs).isSome = (cs.head?.any opensTag && closes cs) := by
  cases cs with
  | nil => rfl
  | cons c more =>
    cases hopens : opensTag c with
    | false => simp [tagBody?, hopens]
    | true =>
      have hcloses : closes (c :: more) = closes more := by
        simp [closes, isBracket_of_opensTag hopens]
      rw [hcloses, closes_eq, tagBody?]
      simp only [hopens, if_true, List.head?_cons, Option.any_some, Bool.true_and]
      split
      · next heq => simp [heq]
      · next hne =>
        cases hdrop : more.drop (more.takeWhile (!isBracket ·)).length with
        | nil => rfl
        | cons d tail =>
          have hd : d ≠ ']' := fun hd => hne tail (hd ▸ hdrop)
          simp [hd]

theorem tagBody?_of_isBody (h : IsBody body) (rest : List Char) :
    tagBody? (body ++ ']' :: rest) = some (body, rest) := by
  obtain ⟨c, inner, rfl, hopens, hinner⟩ := h
  have htake : (inner ++ ']' :: rest).takeWhile (!isBracket ·) = inner := by
    rw [List.takeWhile_append_of_pos (by simpa using hinner),
      List.takeWhile_cons_of_neg (by simp [isBracket]), List.append_nil]
  simp [tagBody?, hopens, htake]

theorem tagBody?_append_of_some (h : tagBody? cs = some (body, rest)) (ds : List Char) :
    tagBody? (cs ++ ds) = some (body, rest ++ ds) := by
  obtain ⟨hbody, rfl⟩ := tagBody?_eq_some h
  rw [List.append_assoc, List.cons_append]
  exact tagBody?_of_isBody hbody _

/-- A bracket that begins no tag begins none before a text that does not close one. -/
theorem tagBody?_append_of_none (h : tagBody? cs = none)
    (hgoesOn : goesOn cs = true → closes ds = false) : tagBody? (cs ++ ds) = none := by
  have hnone : (cs.head?.any opensTag && closes cs) = false := by rw [← isSome_tagBody?, h]; rfl
  suffices hsome : (tagBody? (cs ++ ds)).isSome = false by simpa using hsome
  rw [isSome_tagBody?]
  cases cs with
  | nil => simp [hgoesOn rfl]
  | cons c more =>
    rw [List.cons_append, List.head?_cons, ← List.cons_append, closes_append]
    rw [List.head?_cons] at hnone
    split
    · exact hnone
    · next hany =>
      cases hopens : opensTag c with
      | false => simp [hopens]
      | true =>
        have hall : goesOn (c :: more) = true := by
          simpa [goesOn, hopens] using hany
        simp [hgoesOn hall]

theorem exists_of_tagBody?_append (hnone : tagBody? cs = none)
    (h : tagBody? (cs ++ ds) = some (body, rest)) :
    ∃ more, body = cs ++ more ∧ ds = more ++ ']' :: rest := by
  obtain ⟨hbody, hsplit⟩ := tagBody?_eq_some h
  rcases List.append_eq_append_iff.mp hsplit with ⟨more, hmore, hds⟩ | ⟨more, rfl, hrest⟩
  · exact ⟨more, hmore, hds⟩
  · cases more with
    | nil => exact ⟨[], by simp, hrest.symm⟩
    | cons c more =>
      obtain ⟨rfl, -⟩ := List.cons.inj hrest
      rw [tagBody?_of_isBody hbody] at hnone
      cases hnone

theorem unfinished_of_suffix (hsuffix : rest <:+ cs) (h : unfinished rest = true) :
    unfinished cs = true := by
  obtain ⟨before, rfl⟩ := hsuffix
  induction before with
  | nil => exact h
  | cons c before ih => simp [unfinished, ih]

/-- Nothing goes on from one text into another: no tag, and no backslash before a bracket. -/
structure Apart (cs ds : List Char) : Prop where
  tag : unfinished cs = true → closes ds = false
  slash : cs.getLast? = some '\\' → ds.head? ≠ some '\\' ∧ ds.head? ≠ some '['

theorem Apart.of_suffix (h : Apart cs ds) (hsuffix : rest <:+ cs) : Apart rest ds := by
  refine ⟨fun hrest => h.tag (unfinished_of_suffix hsuffix hrest), fun hlast => h.slash ?_⟩
  obtain ⟨before, rfl⟩ := hsuffix
  simp [List.getLast?_append, hlast]

theorem pieces_append (h : Apart cs ds) : pieces (cs ++ ds) = pieces cs ++ pieces ds := by
  induction cs using piecesInduction with
  | backslashes n =>
    rw [pieces_backslashes]
    cases n with
    | zero => rfl
    | succ n =>
      have hlast : (List.replicate (n + 1) '\\').getLast? = some '\\' := by
        rw [List.replicate_succ', List.getLast?_concat]
      obtain ⟨hslash, hbracket⟩ := h.slash hlast
      cases ds with
      | nil =>
        have hnil : pieces [] = [] := pieces_backslashes 0
        rw [List.append_nil, pieces_backslashes, hnil, List.append_nil]
      | cons c more =>
        have hc : c ≠ '\\' ∧ c ≠ '[' := by simpa using And.intro hslash hbracket
        rw [pieces_char _ hc.1 hc.2, pieces_cons hc.1 hc.2, List.map_append, List.append_assoc]
        rfl
  | tag n more inner rest hbody ih =>
    have hsuffix : rest <:+ List.replicate n '\\' ++ '[' :: more := by
      obtain ⟨-, rfl⟩ := tagBody?_eq_some hbody
      exact ⟨List.replicate n '\\' ++ '[' :: (inner ++ [']']), by simp⟩
    rw [pieces_tag n hbody, List.append_assoc, List.cons_append,
      pieces_tag n (tagBody?_append_of_some hbody ds), ih (h.of_suffix hsuffix)]
    rfl
  | bracket n more hbody ih =>
    have hsuffix : '[' :: more <:+ List.replicate n '\\' ++ '[' :: more := List.suffix_append _ _
    have hgoesOn : goesOn more = true → closes ds = false := by
      intro hmore
      exact (h.of_suffix hsuffix).tag (by simp [unfinished, hmore])
    rw [pieces_bracket n hbody, List.append_assoc, List.cons_append,
      pieces_bracket n (tagBody?_append_of_none hbody hgoesOn),
      ih (h.of_suffix ((List.suffix_cons _ _).trans hsuffix)), List.append_assoc]
  | char n c more hslash hbracket ih =>
    have hsuffix : more <:+ List.replicate n '\\' ++ c :: more :=
      (List.suffix_cons _ _).trans (List.suffix_append _ _)
    rw [pieces_char n hslash hbracket, List.append_assoc, List.cons_append,
      pieces_char n hslash hbracket, ih (h.of_suffix hsuffix), List.append_assoc]

end Cuts

section Display

/-- What a piece shows for itself. -/
def Piece.shown : Piece → List Char
  | .char c => [c]
  | .tag escapes body => List.replicate (escapes / 2) '\\' ++
      if escapes % 2 = 1 then '[' :: body ++ [']'] else []

/-- What pieces show: a backslash before a bracket that begins no tag is not shown. -/
def display : List Piece → List Char
  | [] => []
  | p :: ps =>
    (if p = .char '\\' ∧ ps.head? = some (.char '[') then [] else p.shown) ++ display ps

theorem display_append {ps qs : List Piece}
    (h : ps.getLast? = some (.char '\\') → qs.head? ≠ some (.char '[')) :
    display (ps ++ qs) = display ps ++ display qs := by
  induction ps with
  | nil => rfl
  | cons p ps ih =>
    cases ps with
    | nil =>
      have hhidden : ¬ (p = .char '\\' ∧ qs.head? = some (.char '[')) := by
        rintro ⟨rfl, hhead⟩
        exact h rfl hhead
      simp [display, hhidden]
    | cons q ps =>
      have hrest : display (q :: ps ++ qs) = display (q :: ps) ++ display qs :=
        ih fun hlast => h (by rwa [List.getLast?_cons_cons])
      have hfirst : ∀ rs, display (p :: q :: rs) =
          (if p = .char '\\' ∧ q = .char '[' then [] else p.shown) ++ display (q :: rs) := by
        intro rs
        simp [display]
      rw [List.cons_append, List.cons_append, hfirst, hfirst, ← List.cons_append, hrest,
        List.append_assoc]

/-- The tags that are open behind a piece. -/
def Piece.obey (tags : List OpenTag) : Piece → Except FaultClass (List OpenTag)
  | .char _ => .ok tags
  | .tag escapes body => Scanner.follow tags (decide (escapes % 2 = 1)) body

end Display

namespace Reader

/-- The plain run before some pieces, without a backslash that they take away. -/
def keptRun (run : List Char) (ps : List Piece) : List Char :=
  if run.head? = some '\\' ∧ ps.head? = some (.char '[') then run.tail else run

theorem keptRun_pushPlain (run : List Char) (c : Char) (ps : List Piece) :
    keptRun (pushPlain run c) ps =
      (if Piece.char c = .char '\\' ∧ ps.head? = some (.char '[') then [] else [c]) ++
        keptRun run (.char c :: ps) := by
  by_cases hc : c = '['
  · obtain rfl := hc
    have hhead : (pushPlain run '[').head? = some '[' := by
      unfold pushPlain
      rw [if_pos rfl]
      split <;> rfl
    rw [keptRun, hhead, if_neg (by simp), if_neg (by simp)]
    unfold keptRun pushPlain
    cases run with
    | nil => rfl
    | cons d run =>
      by_cases hd : d = '\\'
      · obtain rfl := hd
        rfl
      · simp [hd]
  · have hpush : pushPlain run c = c :: run := if_neg hc
    have hkept : keptRun run (.char c :: ps) = run := by simp [keptRun, hc]
    rw [hpush, hkept]
    by_cases hhidden : c = '\\' ∧ ps.head? = some (.char '[')
    · simp [keptRun, hhidden]
    · simp [keptRun, hhidden]

theorem shown_tag {r u : Reader} {escapes : Nat} {body : List Char}
    (h : r.tag escapes body = .ok u) :
    u.run = [] ∧ u.shown = (Piece.tag escapes body).shown.reverse ++ (r.run ++ r.shown) := by
  unfold tag at h
  dsimp only at h
  by_cases hodd : escapes % 2 = 1
  · rw [if_pos hodd] at h
    obtain rfl := pure_eq_ok.mp h
    simp [put, endRun, Piece.shown, hodd]
  · rw [if_neg hodd] at h
    have hshown : (Piece.tag escapes body).shown = List.replicate (escapes / 2) '\\' := by
      simp [Piece.shown, hodd]
    rw [hshown]
    split at h
    · obtain ⟨found, -, h⟩ := bind_eq_ok.mp h
      obtain ⟨-, -, h⟩ := bind_eq_ok.mp h
      obtain rfl := pure_eq_ok.mp h
      exact ⟨rfl, rfl⟩
    · obtain ⟨name, -, h⟩ := bind_eq_ok.mp h
      obtain rfl := pure_eq_ok.mp h
      exact ⟨rfl, rfl⟩

/-- A reader that comes through has shown the pieces behind what it had shown before. -/
theorem shown_foldlM {r r' : Reader} {ps : List Piece} (h : ps.foldlM step r = .ok r') :
    r'.endRun.shown.reverse = (keptRun r.run ps ++ r.shown).reverse ++ display ps := by
  induction ps generalizing r with
  | nil =>
    obtain rfl := Except.ok.inj h
    simp [keptRun, endRun, display]
  | cons p ps ih =>
    rw [List.foldlM_cons] at h
    obtain ⟨u, hstep, hrest⟩ := bind_eq_ok.mp h
    rw [ih hrest]
    cases p with
    | char c =>
      obtain rfl := Except.ok.inj hstep
      simp only [keptRun_pushPlain, display, Piece.shown]
      split <;> simp
    | tag escapes body =>
      obtain ⟨hrun, hshown⟩ := shown_tag hstep
      simp [hrun, hshown, keptRun, display]

theorem outcome_foldlM (r : Reader) (ps : List Piece) :
    outcome (ps.foldlM step r) = ps.foldlM Piece.obey r.tags := by
  induction ps generalizing r with
  | nil => rfl
  | cons p ps ih =>
    rw [List.foldlM_cons, List.foldlM_cons,
      outcome_bind (g := fun tags => ps.foldlM Piece.obey tags) ih]
    cases p with
    | char c => rfl
    | tag escapes body => rw [step, outcome_tag]; rfl

end Reader

/-- The text without the characters that a terminal would obey. -/
def visible (cs : List Char) : List Char := cs.filter (!isTerminalControl ·)

/-- Markup can be read if its tags can be obeyed one after another, and then it reads as
its pieces are shown. -/
theorem stripChars_eq_ok_iff {cs out : List Char} :
    stripChars cs = .ok out ↔
      (∃ tags, (pieces cs).foldlM Piece.obey [] = .ok tags) ∧
        out = visible (display (pieces cs)) := by
  have houtcome := Reader.outcome_foldlM .start (pieces cs)
  unfold stripChars
  cases hread : (pieces cs).foldlM Reader.step .start with
  | error e =>
    have herror : (pieces cs).foldlM Piece.obey [] = .error e.cls := by
      rw [hread] at houtcome
      exact houtcome.symm
    rw [herror]
    exact ⟨nofun, fun h => by obtain ⟨⟨tags, htags⟩, -⟩ := h; cases htags⟩
  | ok r =>
    have hok : (pieces cs).foldlM Piece.obey [] = .ok r.tags := by
      rw [hread] at houtcome
      exact houtcome.symm
    have hshown : r.endRun.shown.reverse = display (pieces cs) := Reader.shown_foldlM hread
    rw [hok]
    constructor
    · intro h
      obtain rfl := pure_eq_ok.mp h
      exact ⟨⟨r.tags, rfl⟩, by rw [hshown]; rfl⟩
    · rintro ⟨-, rfl⟩
      exact pure_eq_ok.mpr (by rw [hshown]; rfl)

theorem stripMarkup_eq_ok_iff {s out : String} :
    stripMarkup s = .ok out ↔ (∃ tags, (pieces s.toList).foldlM Piece.obey [] = .ok tags) ∧
      out.toList = visible (display (pieces s.toList)) := by
  rw [stripMarkup, map_eq_ok, ← stripChars_eq_ok_iff]
  constructor
  · rintro ⟨cs, hcs, rfl⟩
    rwa [String.toList_ofList]
  · intro h
    exact ⟨out.toList, h, String.ofList_toList⟩

end ScriptProfiling
