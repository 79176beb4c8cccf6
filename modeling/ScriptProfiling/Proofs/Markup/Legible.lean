import ScriptProfiling.Proofs.Markup.Display
import ScriptProfiling.Proofs.Markup.Template

/-!
# What escaped text shows

Escaped text has the tags of the text itself, each as text. It is shown as it was, but for
two things: a backslash before a bracket that begins no tag is lost, and so are backslashes
at the end, where a tag of the template follows them.

`literal` is the text without the former, and `trailing` counts the latter. Where one of the two
happens the loss shows: no text that follows on the same line puts back what is missing, so the
conditions are exact. `Inside` says what stands between the tags of a style.
-/
namespace ScriptProfiling

section Escaped

variable {x y : List Char}

/-- The piece as text. -/
def escapedOnce : Piece → Piece
  | .char c => .char c
  | .tag escapes body => .tag (2 * escapes + 1) body

theorem closes_backslashes (n : Nat) (cs : List Char) :
    closes (List.replicate n '\\' ++ cs) = closes cs := by
  induction n with
  | zero => rfl
  | succ n ih => exact ih

theorem closes_bracket (cs : List Char) : closes ('[' :: cs) = false := rfl

theorem closes_escapedTags (x : List Char) : closes (escapedTags x) = closes x := by
  induction x using piecesInduction with
  | backslashes n => rw [escapedTags_backslashes]
  | tag n more inner rest hbody ih =>
    rw [escapedTags_tag n hbody, closes_backslashes, closes_backslashes, closes_bracket,
      closes_bracket]
  | bracket n more hbody ih =>
    rw [escapedTags_bracket n hbody, closes_backslashes, closes_backslashes, closes_bracket,
      closes_bracket]
  | char n c more hslash hbracket ih =>
    rw [escapedTags_char n hslash hbracket, closes_backslashes, closes_backslashes]
    simp only [closes, ih]

theorem opens_backslashes (n : Nat) {cs ds : List Char}
    (h : cs.head?.any opensTag = ds.head?.any opensTag) :
    (List.replicate n '\\' ++ cs).head?.any opensTag =
      (List.replicate n '\\' ++ ds).head?.any opensTag := by
  cases n with
  | zero => exact h
  | succ n => rfl

theorem opens_escapedTags (x : List Char) :
    (escapedTags x).head?.any opensTag = x.head?.any opensTag := by
  induction x using piecesInduction with
  | backslashes n => rw [escapedTags_backslashes]
  | tag n more inner rest hbody ih =>
    rw [escapedTags_tag n hbody]
    cases n <;> rfl
  | bracket n more hbody ih =>
    rw [escapedTags_bracket n hbody]
    exact opens_backslashes n rfl
  | char n c more hslash hbracket ih =>
    rw [escapedTags_char n hslash hbracket]
    exact opens_backslashes n rfl

theorem isSome_tagBody?_escapedTags (x : List Char) :
    (tagBody? (escapedTags x)).isSome = (tagBody? x).isSome := by
  rw [isSome_tagBody?, isSome_tagBody?, opens_escapedTags, closes_escapedTags]

theorem escapedTags_append (h : Apart x y) :
    escapedTags (x ++ y) = escapedTags x ++ escapedTags y := by
  rw [escapedTags, pieces_append h, List.flatMap_append]
  rfl

theorem tagBody?_escapedTags_of_none (h : tagBody? x = none) : tagBody? (escapedTags x) = none := by
  rw [← Option.not_isSome_iff_eq_none, isSome_tagBody?_escapedTags, h]
  simp

theorem escapedTags_eq_self (h : '[' ∉ x) : escapedTags x = x := by
  induction x using piecesInduction with
  | backslashes n => exact escapedTags_backslashes n
  | tag n more inner rest hbody ih => exact absurd (by simp) h
  | bracket n more hbody ih => exact absurd (by simp) h
  | char n c more hslash hbracket ih =>
    rw [escapedTags_char n hslash hbracket, ih fun hmem => h (by simp [hmem])]

theorem any_isBracket_escapedTags (x : List Char) :
    (escapedTags x).any isBracket = x.any isBracket := by
  have hslash : isBracket '\\' = false := rfl
  induction x using piecesInduction with
  | backslashes n => rw [escapedTags_backslashes]
  | tag n more inner rest hbody ih =>
    rw [escapedTags_tag n hbody]
    simp [isBracket]
  | bracket n more hbody ih =>
    rw [escapedTags_bracket n hbody]
    simp [isBracket]
  | char n c more hslash hbracket ih =>
    rw [escapedTags_char n hslash hbracket]
    simp [ih]

theorem goesOn_escapedTags (x : List Char) : goesOn (escapedTags x) = goesOn x := by
  have hall : ∀ cs : List Char, cs.all (!isBracket ·) = !cs.any isBracket := fun cs => by
    rw [List.not_any_eq_all_not]
  by_cases hany : x.any isBracket = true
  · simp only [goesOn, hall, any_isBracket_escapedTags, hany]
    rfl
  · have hnone : '[' ∉ x := fun hmem => hany (List.any_eq_true.mpr ⟨'[', hmem, rfl⟩)
    rw [escapedTags_eq_self hnone]

theorem unfinished_append_of_notMem {cs : List Char} (h : '[' ∉ cs) (ds : List Char) :
    unfinished (cs ++ ds) = unfinished ds := by
  induction cs with
  | nil => rfl
  | cons c cs ih =>
    rw [List.mem_cons, not_or] at h
    have hc : (c == '[') = false := beq_false_of_ne (Ne.symm h.1)
    rw [List.cons_append, unfinished, ih h.2, hc]
    rfl

theorem unfinished_escapedTags (x : List Char) : unfinished (escapedTags x) = unfinished x := by
  have hslashes : ∀ (n : Nat) (cs : List Char),
      unfinished (List.replicate n '\\' ++ cs) = unfinished cs := fun n =>
    unfinished_append_of_notMem (by simp)
  have hbracket : ∀ cs, unfinished ('[' :: cs) = (goesOn cs || unfinished cs) := fun cs => rfl
  have hclosed : ∀ inner rest : List Char, goesOn (inner ++ ']' :: rest) = false := by
    intro inner rest
    simp [goesOn, isBracket]
  induction x using piecesInduction with
  | backslashes n => rw [escapedTags_backslashes]
  | tag n more inner rest hbody ih =>
    obtain ⟨hinner, rfl⟩ := tagBody?_eq_some hbody
    have hopen : '[' ∉ inner ++ [']'] := by
      intro hmem
      rcases List.mem_append.mp hmem with hmem | hmem
      · exact absurd (hinner.isBracket_eq_false hmem) (by decide)
      · exact absurd (List.mem_singleton.mp hmem) (by decide)
    have hrest : ∀ cs, unfinished (inner ++ ']' :: cs) = unfinished cs := by
      intro cs
      rw [← List.singleton_append, ← List.append_assoc, unfinished_append_of_notMem hopen]
    rw [escapedTags_tag n hbody, hslashes, hslashes, hbracket, hbracket, hclosed, hclosed, hrest,
      hrest, ih]
  | bracket n more hbody ih =>
    rw [escapedTags_bracket n hbody, hslashes, hslashes, hbracket, hbracket, goesOn_escapedTags, ih]
  | char n c more hslash hne ih =>
    have hskip : ∀ cs, unfinished (List.replicate n '\\' ++ c :: cs) = unfinished cs := by
      intro cs
      rw [hslashes, ← List.singleton_append,
        unfinished_append_of_notMem (by simpa using Ne.symm hne)]
    rw [escapedTags_char n hslash hne, hskip, hskip, ih]

theorem pieces_escapedTags (x : List Char) :
    pieces (escapedTags x) = (pieces x).map escapedOnce := by
  have hchars : ∀ cs : List Char, (cs.map Piece.char).map escapedOnce = cs.map .char := by
    intro cs
    rw [List.map_map]
    rfl
  have hsplit : ∀ (cs : List Char) (ps : List Piece),
      (cs.map Piece.char ++ ps).map escapedOnce = cs.map .char ++ ps.map escapedOnce := by
    intro cs ps
    rw [List.map_append, hchars]
  induction x using piecesInduction with
  | backslashes n => rw [escapedTags_backslashes, pieces_backslashes, hchars]
  | tag n more inner rest hbody ih =>
    have hread := tagBody?_of_isBody (tagBody?_eq_some hbody).1 (escapedTags rest)
    rw [escapedTags_tag n hbody, pieces_tag _ hread, pieces_tag n hbody, ih]
    rfl
  | bracket n more hbody ih =>
    rw [escapedTags_bracket n hbody, pieces_bracket n (tagBody?_escapedTags_of_none hbody),
      pieces_bracket n hbody, ih, hsplit]
  | char n c more hslash hbracket ih =>
    rw [escapedTags_char n hslash hbracket, pieces_char n hslash hbracket,
      pieces_char n hslash hbracket, ih, hsplit]

/-- Pieces that change no tags. -/
def Still (ps : List Piece) : Prop := ∀ p ∈ ps, ∀ tags, p.obey tags = .ok tags

theorem still_chars (cs : List Char) : Still (cs.map .char) := by
  intro p hp tags
  obtain ⟨c, -, rfl⟩ := List.mem_map.mp hp
  rfl

theorem still_escapedOnce (ps : List Piece) : Still (ps.map escapedOnce) := by
  intro p hp tags
  obtain ⟨q, -, rfl⟩ := List.mem_map.mp hp
  cases q with
  | char c => rfl
  | tag escapes body =>
    have hodd : (2 * escapes + 1) % 2 = 1 := by omega
    simp [escapedOnce, Piece.obey, Scanner.follow, hodd]

theorem Still.foldlM {ps : List Piece} (h : Still ps) (qs : List Piece) (tags : List OpenTag) :
    (ps ++ qs).foldlM Piece.obey tags = qs.foldlM Piece.obey tags := by
  induction ps with
  | nil => rfl
  | cons p ps ih =>
    rw [List.cons_append, List.foldlM_cons, h p List.mem_cons_self]
    exact ih fun q hq => h q (List.mem_cons_of_mem _ hq)

end Escaped

section Legible

/-- Whether a backslash stands before a bracket that begins no tag. -/
def loneEscape : List Char → Bool
  | [] => false
  | c :: cs => (c == '\\' && cs.head? == some '[' && (tagBody? cs.tail).isNone) || loneEscape cs

/-- The number of backslashes at the end. -/
def trailing (cs : List Char) : Nat := (cs.reverse.takeWhile isBackslash).length

/-- What the tags of a text show when they are text. -/
def literal (x : List Char) : List Char := display ((pieces x).map escapedOnce)

variable (n : Nat) {more inner rest x y : List Char} {c : Char}

theorem display_chars_append {cs : List Char} (hcs : ∀ c ∈ cs, c ≠ '\\') (ps : List Piece) :
    display (cs.map .char ++ ps) = cs ++ display ps := by
  induction cs with
  | nil => rfl
  | cons c cs ih =>
    obtain ⟨hc, hcs⟩ := List.forall_mem_cons.mp hcs
    simp [display, Piece.shown, hc, ih hcs]

/-- Backslashes are shown if none of them stands before a bracket. -/
theorem display_backslashes {ps : List Piece} (h : ps.head? ≠ some (.char '[')) :
    display ((List.replicate n '\\').map .char ++ ps) = List.replicate n '\\' ++ display ps := by
  induction n with
  | zero => rfl
  | succ n ih =>
    have hhidden : ((List.replicate n '\\').map Piece.char ++ ps).head? ≠ some (.char '[') := by
      cases n with
      | zero => exact h
      | succ n => simp [List.replicate_succ]
    rw [List.replicate_succ, List.map_cons, List.cons_append, display,
      if_neg fun hboth => hhidden hboth.2, ih]
    rfl

theorem display_replicate :
    display ((List.replicate n '\\').map .char) = List.replicate n '\\' := by
  have hshown : display ((List.replicate n '\\').map Piece.char ++ []) = _ :=
    display_backslashes n nofun
  rwa [List.append_nil, display, List.append_nil] at hshown

theorem literal_backslashes : literal (List.replicate n '\\') = List.replicate n '\\' := by
  rw [literal, ← pieces_escapedTags, escapedTags_backslashes, pieces_backslashes, display_replicate]

theorem literal_tag (h : tagBody? more = some (inner, rest)) :
    literal (List.replicate n '\\' ++ '[' :: more) =
      List.replicate n '\\' ++ '[' :: (inner ++ ']' :: literal rest) := by
  have hhalf : (2 * n + 1) / 2 = n := by omega
  have hodd : (2 * n + 1) % 2 = 1 := by omega
  simp [literal, pieces_tag n h, escapedOnce, display, Piece.shown, hhalf, hodd]

theorem literal_bracket (h : tagBody? more = none) :
    literal (List.replicate n '\\' ++ '[' :: more) =
      List.replicate (n - 1) '\\' ++ '[' :: literal more := by
  have hbracket : display (.char '[' :: (pieces more).map escapedOnce) = '[' :: literal more := by
    simp [display, Piece.shown, literal]
  have hpieces : (pieces (List.replicate n '\\' ++ '[' :: more)).map escapedOnce =
      (List.replicate n '\\').map .char ++ .char '[' :: (pieces more).map escapedOnce := by
    simp [pieces_bracket n h, escapedOnce]
  rw [literal, hpieces]
  cases n with
  | zero => exact hbracket
  | succ n =>
    have hhidden : display (.char '\\' :: .char '[' :: (pieces more).map escapedOnce) =
        '[' :: literal more := by
      rw [display, hbracket]
      simp
    rw [List.replicate_succ', List.map_append, List.append_assoc, Nat.add_sub_cancel, ← hhidden]
    exact display_backslashes n (by simp)

theorem literal_char (hslash : c ≠ '\\') (hbracket : c ≠ '[') :
    literal (List.replicate n '\\' ++ c :: more) =
      List.replicate n '\\' ++ c :: literal more := by
  have hpieces : (pieces (List.replicate n '\\' ++ c :: more)).map escapedOnce =
      (List.replicate n '\\').map .char ++ .char c :: (pieces more).map escapedOnce := by
    simp [pieces_char n hslash hbracket, escapedOnce]
  have hone : display (.char c :: (pieces more).map escapedOnce) = c :: literal more := by
    simp [display, Piece.shown, hslash, literal]
  rw [literal, hpieces, display_backslashes n (by simpa using hbracket), hone]

theorem loneEscape_run (more : List Char) :
    loneEscape (List.replicate n '\\' ++ c :: more) =
      ((decide (0 < n) && c == '[' && (tagBody? more).isNone) || loneEscape (c :: more)) := by
  induction n with
  | zero => rfl
  | succ n ih =>
    rw [List.replicate_succ, List.cons_append, loneEscape, ih]
    cases n with
    | zero => simp
    | succ n => simp [List.replicate_succ]

theorem loneEscape_cons (hslash : c ≠ '\\') : loneEscape (c :: more) = loneEscape more := by
  simp [loneEscape, hslash]

theorem loneEscape_append (front : List Char) (h : loneEscape x = true) :
    loneEscape (front ++ x) = true := by
  induction front with
  | nil => exact h
  | cons c front ih => rw [List.cons_append, loneEscape, ih, Bool.or_true]

theorem loneEscape_backslashes : loneEscape (List.replicate n '\\') = false := by
  induction n with
  | zero => rfl
  | succ n ih =>
    rw [List.replicate_succ, loneEscape, ih]
    cases n <;> simp [List.replicate_succ]

theorem loneEscape_char (hslash : c ≠ '\\') (hbracket : c ≠ '[') :
    loneEscape (List.replicate n '\\' ++ c :: more) = loneEscape more := by
  rw [loneEscape_run, loneEscape_cons hslash]
  simp [hbracket]

theorem loneEscape_bracket (h : tagBody? more = none) :
    loneEscape (List.replicate n '\\' ++ '[' :: more) = (decide (0 < n) || loneEscape more) := by
  rw [loneEscape_run, loneEscape_cons (by decide), h]
  simp

theorem loneEscape_tag (h : tagBody? more = some (inner, rest)) :
    loneEscape (List.replicate n '\\' ++ '[' :: more) = loneEscape rest := by
  have hinside : ∀ cs : List Char, (∀ c ∈ cs, isBracket c = false) →
      loneEscape (cs ++ ']' :: rest) = loneEscape rest := by
    intro cs hcs
    induction cs with
    | nil => exact loneEscape_cons (by decide)
    | cons c cs ih =>
      obtain ⟨hc, hcs⟩ := List.forall_mem_cons.mp hcs
      have hnext : ((cs ++ ']' :: rest).head? == some '[') = false := by
        cases cs with
        | nil => rfl
        | cons d cs =>
          refine beq_false_of_ne fun hd => ?_
          obtain rfl := Option.some.inj hd
          exact absurd (hcs '[' List.mem_cons_self) (by decide)
      rw [List.cons_append, loneEscape, hnext, ih hcs]
      simp
  obtain ⟨hbody, rfl⟩ := tagBody?_eq_some h
  rw [loneEscape_run, loneEscape_cons (by decide), h,
    hinside inner fun c hc => hbody.isBracket_eq_false hc]
  simp

theorem literal_eq (h : loneEscape x = false) : literal x = x := by
  induction x using piecesInduction with
  | backslashes n => exact literal_backslashes n
  | tag n more inner rest hbody ih =>
    rw [loneEscape_tag n hbody] at h
    rw [literal_tag n hbody, ih h]
    obtain ⟨-, rfl⟩ := tagBody?_eq_some hbody
    rfl
  | bracket n more hbody ih =>
    rw [loneEscape_bracket n hbody, Bool.or_eq_false_iff] at h
    obtain rfl : n = 0 := by simpa using h.1
    rw [literal_bracket 0 hbody, ih h.2]
  | char n c more hslash hbracket ih =>
    rw [loneEscape_char n hslash hbracket] at h
    rw [literal_char n hslash hbracket, ih h]

@[simp] theorem visible_append (cs ds : List Char) :
    visible (cs ++ ds) = visible cs ++ visible ds :=
  List.filter_append _ _

theorem visible_cons_of_not (hc : isTerminalControl c = false) (cs : List Char) :
    visible (c :: cs) = c :: visible cs := by
  simp [visible, hc]

theorem visible_cancel (cs : List Char) {ds es a b : List Char}
    (h : visible (cs ++ ds) ++ a = visible (cs ++ es) ++ b) :
    visible ds ++ a = visible es ++ b := by
  rw [visible_append, visible_append, List.append_assoc, List.append_assoc] at h
  exact List.append_cancel_left h

/-- Where a text is not shown as it was, nothing behind it makes up for that. -/
theorem loneEscape_of_literal {a b : List Char}
    (h : visible (literal x) ++ a = visible x ++ b) : loneEscape x = false ∧ a = b := by
  induction x using piecesInduction with
  | backslashes n =>
    rw [literal_backslashes] at h
    exact ⟨loneEscape_backslashes n, List.append_cancel_left h⟩
  | tag n more inner rest hbody ih =>
    rw [literal_tag n hbody] at h
    rw [loneEscape_tag n hbody]
    obtain ⟨-, rfl⟩ := tagBody?_eq_some hbody
    have hsplit : ∀ cs, List.replicate n '\\' ++ '[' :: (inner ++ ']' :: cs) =
        (List.replicate n '\\' ++ '[' :: (inner ++ [']'])) ++ cs := by simp
    rw [hsplit (literal rest), hsplit rest] at h
    exact ih (visible_cancel _ h)
  | bracket n more hbody ih =>
    rw [literal_bracket n hbody] at h
    rw [loneEscape_bracket n hbody]
    cases n with
    | zero =>
      obtain ⟨hmore, hab⟩ := ih (visible_cancel ['['] h)
      exact ⟨by simpa using hmore, hab⟩
    | succ n =>
      rw [Nat.add_sub_cancel, List.replicate_succ', List.append_assoc] at h
      have hnext := visible_cancel _ h
      rw [List.singleton_append, visible_cons_of_not (by decide),
        visible_cons_of_not (by decide)] at hnext
      cases hnext
  | char n c more hslash hbracket ih =>
    rw [literal_char n hslash hbracket] at h
    rw [loneEscape_char n hslash hbracket]
    have hsplit : ∀ cs,
        List.replicate n '\\' ++ c :: cs = (List.replicate n '\\' ++ [c]) ++ cs := by
      simp
    rw [hsplit (literal more), hsplit more] at h
    exact ih (visible_cancel _ h)

end Legible

section Endings

variable {x y : List Char} {k : Nat}

/-- How many backslashes escaped text has at its end for those of the text. -/
def endSlashes (k : Nat) : Nat := if k = 1 then 2 else k

theorem exists_trailing (x : List Char) :
    ∃ y, x = y ++ List.replicate (trailing x) '\\' ∧ y.getLast? ≠ some '\\' := by
  have hsplit := List.takeWhile_append_dropWhile (p := isBackslash) (l := x.reverse)
  have hslashes : x.reverse.takeWhile isBackslash = List.replicate (trailing x) '\\' := by
    refine List.eq_replicate_iff.mpr ⟨rfl, fun c hc => ?_⟩
    simpa [isBackslash] using List.mem_takeWhile_imp hc
  refine ⟨(x.reverse.dropWhile isBackslash).reverse, ?_, ?_⟩
  · rw [hslashes] at hsplit
    have hreverse := congrArg List.reverse hsplit
    rw [List.reverse_append, List.reverse_reverse, List.reverse_replicate] at hreverse
    exact hreverse.symm
  · rw [List.getLast?_reverse]
    intro hhead
    have hnot := List.head?_dropWhile_not isBackslash x.reverse
    rw [hhead] at hnot
    cases hnot

section NoBackslash

variable (hy : y.getLast? ≠ some '\\')

include hy

theorem apart_backslashes (k : Nat) : Apart y (List.replicate k '\\') := by
  refine ⟨fun _ => ?_, fun hlast => absurd hlast hy⟩
  have hcloses := closes_backslashes k []
  rwa [List.append_nil] at hcloses

theorem escapedTags_append_backslashes (k : Nat) :
    escapedTags (y ++ List.replicate k '\\') = escapedTags y ++ List.replicate k '\\' := by
  rw [escapedTags_append (apart_backslashes hy k), escapedTags_backslashes]

theorem escapeChars_append_backslashes (k : Nat) :
    escapeChars (y ++ List.replicate k '\\') =
      escapedTags y ++ List.replicate (endSlashes k) '\\' := by
  have hlast : (escapedTags y).reverse.head? ≠ some '\\' := by
    rwa [List.head?_reverse, getLast?_escapedTags]
  have hcount :
      ((escapedTags y ++ List.replicate k '\\').reverse.takeWhile isBackslash).length = k := by
    rw [List.reverse_append, List.reverse_replicate, takeWhile_backslashes k _ hlast,
      List.length_replicate]
  change closeEscape (escapedTags (y ++ List.replicate k '\\')) = _
  rw [escapedTags_append_backslashes hy, closeEscape, hcount, endSlashes]
  split
  · next hone =>
    rw [hone, List.append_assoc]
    rfl
  · rfl

/-- The tag of a template that follows escaped text takes the backslashes at its end. -/
theorem pieces_escapeChars_tag (k : Nat) {body : List Char} (hbody : IsBody body)
    (rest : List Char) :
    pieces (escapeChars (y ++ List.replicate k '\\') ++ '[' :: (body ++ ']' :: rest)) =
      (pieces y).map escapedOnce ++ .tag (endSlashes k) body :: pieces rest := by
  have hlast : (escapedTags y).getLast? ≠ some '\\' := by rwa [getLast?_escapedTags]
  have hapart : Apart (escapedTags y)
      (List.replicate (endSlashes k) '\\' ++ '[' :: (body ++ ']' :: rest)) := by
    refine ⟨fun _ => ?_, fun h => absurd h hlast⟩
    rw [closes_backslashes, closes_bracket]
  rw [escapeChars_append_backslashes hy, List.append_assoc, pieces_append hapart,
    pieces_escapedTags, pieces_tag _ (tagBody?_of_isBody hbody rest)]

theorem escapeChars_eq_escapedTags : escapeChars y = escapedTags y := by
  have hnone := escapeChars_append_backslashes hy 0
  rwa [List.replicate_zero, List.append_nil, endSlashes, if_neg (by decide), List.replicate_zero,
    List.append_nil] at hnone

theorem pieces_escapeChars (k : Nat) :
    pieces (escapeChars (y ++ List.replicate k '\\')) =
      (pieces y).map escapedOnce ++ (List.replicate (endSlashes k) '\\').map .char := by
  have hlast : (escapedTags y).getLast? ≠ some '\\' := by rwa [getLast?_escapedTags]
  rw [escapeChars_append_backslashes hy, pieces_append (apart_backslashes hlast _),
    pieces_escapedTags, pieces_backslashes]

/-- Escaped text that ends in no backslash goes on into a text that completes no tag of it. -/
theorem pieces_escapeChars_append {rest : List Char}
    (hrest : unfinished y = true → closes rest = false) :
    pieces (escapeChars y ++ rest) = (pieces y).map escapedOnce ++ pieces rest := by
  have hlast : (escapedTags y).getLast? ≠ some '\\' := by rwa [getLast?_escapedTags]
  have hapart : Apart (escapedTags y) rest :=
    ⟨fun h => hrest (by rwa [unfinished_escapedTags] at h), fun h => absurd h hlast⟩
  rw [escapeChars_eq_escapedTags hy, pieces_append hapart, pieces_escapedTags]

end NoBackslash

theorem closes_append_bracket (cs ds : List Char) : closes (cs ++ '[' :: ds) = closes cs := by
  have hnone : closes cs = if cs.any isBracket then closes cs else false := by
    have h := closes_append cs []
    rwa [List.append_nil] at h
  rw [closes_append, closes_bracket, ← hnone]

theorem closes_escapeChars (x : List Char) : closes (escapeChars x) = closes x := by
  change closes (closeEscape (escapedTags x)) = closes x
  rw [closeEscape]
  split
  · have hslash : closes ['\\'] = closes [] := rfl
    rw [closes_append, hslash, ← closes_append, List.append_nil, closes_escapedTags]
  · exact closes_escapedTags x

theorem isNone_tagBody?_append_backslashes (cs : List Char) (k : Nat) :
    (tagBody? (cs ++ List.replicate k '\\')).isNone = (tagBody? cs).isNone := by
  have hcloses : closes (List.replicate k '\\') = false := by
    have hnone := closes_backslashes k []
    rwa [List.append_nil] at hnone
  have hclosesAll : closes (cs ++ List.replicate k '\\') = closes cs := by
    rw [closes_append, hcloses]
    split
    · rfl
    · next hany =>
      have hnone := closes_append cs []
      rw [List.append_nil, if_neg hany] at hnone
      exact hnone.symm
  rw [← Option.not_isSome, ← Option.not_isSome, isSome_tagBody?, isSome_tagBody?, hclosesAll]
  cases cs with
  | nil => simp [closes]
  | cons c cs => rfl

theorem loneEscape_append_backslashes (y : List Char) (k : Nat) :
    loneEscape (y ++ List.replicate k '\\') = loneEscape y := by
  induction y with
  | nil => exact loneEscape_backslashes k
  | cons c cs ih =>
    cases cs with
    | nil =>
      have hhead : ((List.replicate k '\\').head? == some '[') = false := by cases k <;> rfl
      simp [loneEscape, hhead, loneEscape_backslashes]
    | cons d cs =>
      have hfirst : ∀ es, loneEscape (c :: d :: es) =
          ((c == '\\' && d == '[' && (tagBody? es).isNone) || loneEscape (d :: es)) := by
        intro es
        rw [loneEscape]
        rfl
      rw [List.cons_append] at ih
      rw [List.cons_append, List.cons_append, hfirst, hfirst, ih,
        isNone_tagBody?_append_backslashes]

theorem shown_endSlashes_iff {body : List Char} :
    (Piece.tag (endSlashes k) body).shown = List.replicate k '\\' ↔ k ≤ 1 := by
  constructor
  · intro h
    by_contra hk
    have hend : endSlashes k = k := if_neg (by omega)
    rw [hend, Piece.shown] at h
    split at h
    · have hmem : '[' ∈ List.replicate k '\\' := by
        rw [← h]
        simp
      exact absurd (List.eq_of_mem_replicate hmem) (by decide)
    · have hlength := congrArg List.length h
      simp only [List.append_nil, List.length_replicate] at hlength
      omega
  · intro hk
    obtain rfl | rfl : k = 0 ∨ k = 1 := by omega
    · rfl
    · rfl

end Endings

section Parts

variable {cs x y rest : List Char} {k : Nat}

theorem trailing_eq_zero (h : '\\' ∉ x) : trailing x = 0 := by
  have hnone : x.reverse.takeWhile isBackslash = [] := by
    refine List.eq_nil_iff_forall_not_mem.mpr fun c hc => h ?_
    have hslash : c = '\\' := by simpa [isBackslash] using List.mem_takeWhile_imp hc
    exact hslash ▸ List.mem_reverse.mp ((List.takeWhile_subset _) hc)
  rw [trailing, hnone]
  rfl

/-- Text without opening brackets and backslashes: nothing in it is read otherwise. -/
def Flat (cs : List Char) : Prop := ∀ c ∈ cs, c ≠ '[' ∧ c ≠ '\\'

theorem Quiet.flat (h : Quiet cs) : Flat cs := by
  intro c hc
  have hquiet := h c hc
  constructor
  · rintro rfl
    exact absurd hquiet (by decide)
  · rintro rfl
    exact absurd hquiet (by decide)

theorem pieces_flat_append (h : Flat cs) (rest : List Char) :
    pieces (cs ++ rest) = cs.map .char ++ pieces rest := by
  induction cs with
  | nil => rfl
  | cons c cs ih =>
    obtain ⟨hc, hcs⟩ := List.forall_mem_cons.mp h
    rw [List.cons_append, pieces_cons hc.2 hc.1, ih hcs]
    rfl

theorem pieces_nil : pieces [] = [] := pieces_backslashes 0

theorem Flat.pieces_eq (h : Flat cs) : pieces cs = cs.map .char := by
  have hall := pieces_flat_append h []
  rwa [List.append_nil, pieces_nil, List.append_nil] at hall

theorem Flat.notMem (h : Flat cs) : '[' ∉ cs := fun hmem => (h _ hmem).1 rfl

theorem Flat.display_append (h : Flat cs) (ps : List Piece) :
    display (cs.map .char ++ ps) = cs ++ display ps :=
  display_chars_append (fun c hc => (h c hc).2) ps

theorem Flat.display_eq (h : Flat cs) : display (pieces cs) = cs := by
  have hall := h.display_append []
  rwa [List.append_nil, display, List.append_nil, ← h.pieces_eq] at hall

theorem Still.foldlM_eq {ps : List Piece} (h : Still ps) (tags : List OpenTag) :
    ps.foldlM Piece.obey tags = .ok tags := by
  have hall := h.foldlM [] tags
  rwa [List.append_nil] at hall

theorem loneEscape_eq_false (h : '\\' ∉ x) : loneEscape x = false := by
  induction x with
  | nil => rfl
  | cons c x ih =>
    rw [List.mem_cons, not_or] at h
    rw [loneEscape_cons (Ne.symm h.1), ih h.2]

theorem flatMap_source_chars (cs : List Char) : (cs.map Piece.char).flatMap Piece.source = cs := by
  induction cs with
  | nil => rfl
  | cons c cs ih =>
    rw [List.map_cons, List.flatMap_cons, ih]
    rfl

theorem flatMap_source_pieces (x : List Char) : (pieces x).flatMap Piece.source = x := by
  induction x using piecesInduction with
  | backslashes n => rw [pieces_backslashes, flatMap_source_chars]
  | tag n more inner rest hbody ih =>
    obtain ⟨-, rfl⟩ := tagBody?_eq_some hbody
    rw [pieces_tag n hbody, List.flatMap_cons, ih]
    simp [Piece.source]
  | bracket n more hbody ih =>
    rw [pieces_bracket n hbody, List.flatMap_append, flatMap_source_chars, ih]
    simp
  | char n c more hslash hbracket ih =>
    rw [pieces_char n hslash hbracket, List.flatMap_append, flatMap_source_chars, ih]
    simp

theorem getLast?_pieces {c : Char} (h : (pieces x).getLast? = some (.char c)) :
    x.getLast? = some c := by
  obtain ⟨ps, hps⟩ := List.getLast?_eq_some_iff.mp h
  have hsource := flatMap_source_pieces x
  rw [hps, List.flatMap_append] at hsource
  rw [← hsource]
  exact List.getLast?_concat

theorem display_literal_append (hy : y.getLast? ≠ some '\\') (ps : List Piece) :
    display ((pieces y).map escapedOnce ++ ps) = literal y ++ display ps := by
  refine display_append fun hlast => absurd ?_ hy
  rw [List.getLast?_map, Option.map_eq_some_iff] at hlast
  obtain ⟨p, hp, hchar⟩ := hlast
  cases p with
  | char c => exact getLast?_pieces (hp.trans (congrArg some hchar))
  | tag escapes body => cases hchar

/-- Text that stands before a tag of the template: no tag in it is obeyed, it shows `out`, and
the `k` backslashes at its end belong to the tag. -/
structure Inside (inner out : List Char) (k : Nat) : Prop where
  exists_pieces : ∃ ps, Still ps ∧ display ps = out ∧ ∀ body rest, IsBody body →
    pieces (inner ++ '[' :: (body ++ ']' :: rest)) = ps ++ .tag k body :: pieces rest

theorem Still.append {ps qs : List Piece} (h : Still ps) (hqs : Still qs) : Still (ps ++ qs) :=
  fun p hp => (List.mem_append.mp hp).elim (h p) (hqs p)

theorem inside_nil : Inside [] [] 0 :=
  ⟨[], nofun, rfl, fun _ rest hbody => pieces_tag 0 (tagBody?_of_isBody hbody rest)⟩

theorem Inside.flat_append {inner out : List Char} (h : Inside inner out k) (hcs : Flat cs) :
    Inside (cs ++ inner) (cs ++ out) k := by
  obtain ⟨ps, hstill, rfl, hpieces⟩ := h.exists_pieces
  refine ⟨cs.map .char ++ ps, (still_chars cs).append hstill, hcs.display_append ps, ?_⟩
  intro body rest hbody
  rw [List.append_assoc, pieces_flat_append hcs, hpieces body rest hbody, List.append_assoc]

theorem Inside.escaped_append {inner out : List Char} (h : Inside inner out k)
    (hy : y.getLast? ≠ some '\\') (hinner : unfinished y = true → closes inner = false) :
    Inside (escapeChars y ++ inner) (literal y ++ out) k := by
  obtain ⟨ps, hstill, rfl, hpieces⟩ := h.exists_pieces
  refine ⟨(pieces y).map escapedOnce ++ ps, (still_escapedOnce _).append hstill,
    display_literal_append hy ps, fun body rest hbody => ?_⟩
  have hrest : unfinished y = true → closes (inner ++ '[' :: (body ++ ']' :: rest)) = false := by
    intro hunfinished
    rw [closes_append_bracket]
    exact hinner hunfinished
  rw [List.append_assoc, pieces_escapeChars_append hy hrest, hpieces body rest hbody,
    List.append_assoc]

theorem Inside.bracket_cons {inner out : List Char} (h : Inside inner out k)
    (hnone : ∀ rest, tagBody? (inner ++ rest) = none) :
    Inside ('\\' :: '[' :: inner) ('[' :: out) k := by
  obtain ⟨ps, hstill, rfl, hpieces⟩ := h.exists_pieces
  refine ⟨['\\', '['].map .char ++ ps, (still_chars _).append hstill, ?_, ?_⟩
  · simp [display, Piece.shown]
  · intro body rest hbody
    have hbracket := pieces_bracket 1 (hnone ('[' :: (body ++ ']' :: rest)))
    rw [hpieces body rest hbody] at hbracket
    exact hbracket

theorem inside_escaped (hy : y.getLast? ≠ some '\\') (k : Nat) :
    Inside (escapeChars (y ++ List.replicate k '\\')) (literal y) (endSlashes k) :=
  ⟨_, still_escapedOnce _, rfl, fun _ rest hbody => pieces_escapeChars_tag hy k hbody rest⟩

end Parts

end ScriptProfiling
