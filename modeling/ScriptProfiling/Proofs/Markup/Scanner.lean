import ScriptProfiling.Markup.Plain
import ScriptProfiling.Proofs.Markup.Piece
import ScriptProfiling.Proofs.Partial

/-!
# Reading markup character by character

A tag may begin in one part of a text and end in another, so parts cannot be cut into
pieces for themselves. A scanner reads characters one at a time instead: it knows the tag
that may be under way and the parity of the backslashes before it. What it comes to is what
reading the pieces comes to, so texts can be read part by part.
-/
namespace ScriptProfiling

/-- A tag that has begun and may still turn out to be none. -/
structure Candidate where
  escaped : Bool
  /-- The characters after the opening bracket, backward. -/
  body : List Char

structure Scanner where
  /-- Whether the number of backslashes directly before is odd. -/
  odd : Bool
  candidate : Option Candidate
  tags : List OpenTag

/-- What a reading comes to as far as tags are concerned. -/
def Reader.outcome (x : Except Fault Reader) : Except FaultClass (List OpenTag) :=
  (x.map Reader.tags).mapError Fault.cls

namespace Scanner

def start : Scanner := ⟨false, none, []⟩

/-- The open tags after a complete tag. -/
def follow (tags : List OpenTag) (escaped : Bool) (body : List Char) :
    Except FaultClass (List OpenTag) :=
  if escaped then .ok tags
  else if body.head? = some '/' then Reader.outcome (Reader.endTag ⟨0, [], [], tags⟩ 0 body)
  else Reader.outcome (Reader.beginTag ⟨0, [], [], tags⟩ body)

theorem follow_opening {body : List Char} (h : body.head? ≠ some '/') (tags : List OpenTag) :
    follow tags false body = ((Style.normalName (tagName body)).mapError Fault.cls).map
      fun name => ⟨name, tagParameters body⟩ :: tags := by
  unfold follow
  rw [if_neg Bool.false_ne_true, if_neg h, Reader.beginTag]
  cases Style.normalName (tagName body) <;> rfl

theorem follow_closing {body : List Char} (h : body.head? = some '/') (tags : List OpenTag) :
    follow tags false body = (Reader.closed ⟨0, [], [], tags⟩ 0 body).mapError Fault.cls >>=
      fun found => (found.1.check.mapError Fault.cls).map fun _ => found.2 := by
  unfold follow
  rw [if_neg Bool.false_ne_true, if_pos h, Reader.endTag]
  cases Reader.closed ⟨0, [], [], tags⟩ 0 body with
  | error f => rfl
  | ok found =>
    change Reader.outcome (found.1.check >>= _) = (found.1.check.mapError Fault.cls).map _
    cases found.1.check <;> rfl

def step (s : Scanner) (c : Char) : Except FaultClass Scanner :=
  let odd := isBackslash c && !s.odd
  if c = '[' then .ok ⟨false, some ⟨s.odd, []⟩, s.tags⟩
  else
    match s.candidate with
    | none => .ok { s with odd := odd }
    | some ⟨escaped, []⟩ =>
      .ok ⟨odd, if opensTag c then some ⟨escaped, [c]⟩ else none, s.tags⟩
    | some ⟨escaped, d :: body⟩ =>
      if c = ']' then (follow s.tags escaped (d :: body).reverse).map (⟨false, none, ·⟩)
      else .ok ⟨odd, some ⟨escaped, c :: d :: body⟩, s.tags⟩

def run (s : Scanner) (cs : List Char) : Except FaultClass Scanner := cs.foldlM step s

theorem run_append (s : Scanner) (cs ds : List Char) :
    s.run (cs ++ ds) = s.run cs >>= fun s => s.run ds :=
  List.foldlM_append

theorem run_cons (s : Scanner) (c : Char) (cs : List Char) :
    s.run (c :: cs) = s.step c >>= fun s => s.run cs :=
  List.foldlM_cons

section Runs

variable {odd : Bool} {tags : List OpenTag}

theorem run_backslashes (n : Nat) :
    run ⟨false, none, tags⟩ (List.replicate n '\\') = .ok ⟨decide (n % 2 = 1), none, tags⟩ := by
  induction n with
  | zero => rfl
  | succ n ih =>
    rw [List.replicate_succ', run_append, ih]
    change Except.ok (Scanner.mk (isBackslash '\\' && !decide (n % 2 = 1)) none tags) = _
    have hparity : (isBackslash '\\' && !decide (n % 2 = 1)) = decide ((n + 1) % 2 = 1) := by
      rcases Nat.mod_two_eq_zero_or_one n with h | h
      · have hnext : (n + 1) % 2 = 1 := by omega
        simp [isBackslash, h, hnext]
      · have hnext : (n + 1) % 2 = 0 := by omega
        simp [isBackslash, h, hnext]
    rw [hparity]

theorem step_body {escaped : Bool} {d : Char} {body : List Char} {c : Char}
    (hc : isBracket c = false) :
    step ⟨odd, some ⟨escaped, d :: body⟩, tags⟩ c =
      .ok ⟨isBackslash c && !odd, some ⟨escaped, c :: d :: body⟩, tags⟩ := by
  have hne : c ≠ '[' ∧ c ≠ ']' := by simpa [isBracket] using hc
  simp [step, hne.1, hne.2]

/-- A tag that is under way goes on until a bracket closes it. -/
theorem run_body {escaped : Bool} {d : Char} (body inner rest : List Char)
    (hinner : ∀ c ∈ inner, isBracket c = false) :
    run ⟨odd, some ⟨escaped, d :: body⟩, tags⟩ (inner ++ ']' :: rest) =
      follow tags escaped ((d :: body).reverse ++ inner) >>= fun tags =>
        run ⟨false, none, tags⟩ rest := by
  induction inner generalizing odd d body with
  | nil =>
    rw [List.append_nil, List.nil_append, run_cons]
    change (follow tags escaped (d :: body).reverse).map (Scanner.mk false none) >>= _ = _
    cases follow tags escaped (d :: body).reverse <;> rfl
  | cons c inner ih =>
    obtain ⟨hc, hinner⟩ := List.forall_mem_cons.mp hinner
    rw [List.cons_append, run_cons, step_body hc]
    change run ⟨_, some ⟨escaped, c :: d :: body⟩, tags⟩ (inner ++ ']' :: rest) = _
    rw [ih (d :: body) hinner, List.reverse_cons, List.append_assoc]
    rfl

theorem run_tag {escaped : Bool} {body : List Char} (h : IsBody body) (rest : List Char) :
    run ⟨odd, some ⟨escaped, []⟩, tags⟩ (body ++ ']' :: rest) =
      follow tags escaped body >>= fun tags => run ⟨false, none, tags⟩ rest := by
  obtain ⟨c, inner, rfl, hopens, hinner⟩ := h
  have hbracket : c ≠ '[' := by
    rintro rfl
    cases hopens
  have hstep : step ⟨odd, some ⟨escaped, []⟩, tags⟩ c =
      .ok ⟨isBackslash c && !odd, some ⟨escaped, [c]⟩, tags⟩ := by
    simp [step, hbracket, hopens]
  rw [List.cons_append, run_cons, hstep]
  exact run_body [] inner rest hinner

theorem tags_run_of_not_closes {escaped : Bool} {d : Char} {body cs : List Char}
    (h : closes cs = false) :
    (run ⟨odd, some ⟨escaped, d :: body⟩, tags⟩ cs).map Scanner.tags =
      (run ⟨odd, none, tags⟩ cs).map Scanner.tags := by
  induction cs generalizing odd d body with
  | nil => rfl
  | cons c cs ih =>
    unfold closes at h
    rw [run_cons, run_cons]
    cases hc : isBracket c with
    | false =>
      rw [hc] at h
      rw [step_body hc]
      have hne : c ≠ '[' := by
        rintro rfl
        cases hc
      have hstep : step ⟨odd, none, tags⟩ c = .ok ⟨isBackslash c && !odd, none, tags⟩ := by
        simp [step, hne]
      rw [hstep]
      exact ih (by simpa using h)
    | true =>
      rw [hc] at h
      have hopen : c = '[' := by
        have hclose : c ≠ ']' := by simpa using h
        simpa [isBracket, hclose] using hc
      rw [hopen]
      rfl

/-- A bracket that opens no tag is a character like others. -/
theorem tags_run_of_tagBody?_eq_none {escaped : Bool} {more : List Char}
    (h : tagBody? more = none) :
    (run ⟨false, some ⟨escaped, []⟩, tags⟩ more).map Scanner.tags =
      (run ⟨false, none, tags⟩ more).map Scanner.tags := by
  cases more with
  | nil => rfl
  | cons c more =>
    rw [run_cons, run_cons]
    by_cases hbracket : c = '['
    · rw [hbracket]
      rfl
    · have hplain : step ⟨false, none, tags⟩ c = .ok ⟨isBackslash c, none, tags⟩ := by
        simp [step, hbracket]
      cases hopens : opensTag c with
      | false =>
        have hstep :
            step ⟨false, some ⟨escaped, []⟩, tags⟩ c = .ok ⟨isBackslash c, none, tags⟩ := by
          simp [step, hbracket, hopens]
        rw [hplain, hstep]
      | true =>
        have hstep : step ⟨false, some ⟨escaped, []⟩, tags⟩ c =
            .ok ⟨isBackslash c, some ⟨escaped, [c]⟩, tags⟩ := by
          simp [step, hbracket, hopens]
        rw [hplain, hstep]
        exact tags_run_of_not_closes (not_closes_of_tagBody?_eq_none hopens h)

end Runs
end Scanner

namespace Reader

open Scanner

variable (r : Reader)

theorem outcome_bind {x : Except Fault Reader} {f : Reader → Except Fault Reader}
    {g : List OpenTag → Except FaultClass (List OpenTag)}
    (h : ∀ r, outcome (f r) = g r.tags) : outcome (x >>= f) = outcome x >>= g := by
  cases x with
  | error e => rfl
  | ok r => exact h r

theorem outcome_beginTag (body : List Char) :
    outcome (r.beginTag body) = outcome (beginTag ⟨0, [], [], r.tags⟩ body) := by
  unfold beginTag
  cases Style.normalName (tagName body) <;> rfl

/-- Where a tag stands matters to what is said of it, not to what it does. -/
theorem outcome_endTag (place : Nat) (body : List Char) :
    outcome (r.endTag place body) = outcome (endTag ⟨0, [], [], r.tags⟩ 0 body) := by
  unfold endTag closed
  dsimp only
  split
  · cases r.tags with
    | nil => rfl
    | cons t rest =>
      change outcome (t.check >>= _) = outcome (t.check >>= _)
      cases t.check <;> rfl
  · cases Style.normalName (strip ((tagName body).drop 1)) with
    | error e => rfl
    | ok name =>
      simp only [bind, Except.bind]
      cases closeTag? name r.tags with
      | none => rfl
      | some found =>
        change outcome (found.1.check >>= _) = outcome (found.1.check >>= _)
        cases found.1.check <;> rfl

theorem outcome_tag (escapes : Nat) (body : List Char) :
    outcome (r.tag escapes body) = follow r.tags (decide (escapes % 2 = 1)) body := by
  unfold tag follow
  dsimp only
  by_cases hodd : escapes % 2 = 1
  · simp only [hodd, if_true, decide_true]
    rfl
  · simp only [hodd, if_false, decide_false, Bool.false_eq_true]
    split
    · exact outcome_endTag _ _ _
    · exact outcome_beginTag _ _

theorem foldlM_chars (cs : List Char) (ps : List Piece) :
    ∃ r', Reader.tags r' = r.tags ∧
      (cs.map Piece.char ++ ps).foldlM step r = ps.foldlM step r' := by
  induction cs generalizing r with
  | nil => exact ⟨r, rfl, rfl⟩
  | cons c cs ih => exact ih ⟨r.position + 1, pushPlain r.run c, r.shown, r.tags⟩

end Reader

namespace Scanner

/-- A scanner comes to the same tags as a reader of pieces, or to the same kind of fault. -/
theorem outcome_pieces (r : Reader) (cs : List Char) :
    Reader.outcome ((pieces cs).foldlM Reader.step r) =
      (run ⟨false, none, r.tags⟩ cs).map Scanner.tags := by
  induction cs using piecesInduction generalizing r with
  | backslashes n =>
    obtain ⟨r', htags, hfold⟩ := r.foldlM_chars (List.replicate n '\\') []
    rw [List.append_nil] at hfold
    rw [pieces_backslashes, hfold, run_backslashes]
    exact congrArg Except.ok htags
  | tag n more inner rest hbody ih =>
    have hopen : step ⟨decide (n % 2 = 1), none, r.tags⟩ '[' =
        .ok ⟨false, some ⟨decide (n % 2 = 1), []⟩, r.tags⟩ := rfl
    have hreader := Reader.outcome_bind (x := r.tag n inner)
      (g := fun tags => (run ⟨false, none, tags⟩ rest).map Scanner.tags) ih
    obtain ⟨hinner, rfl⟩ := tagBody?_eq_some hbody
    rw [pieces_tag n hbody, run_append, run_backslashes, List.foldlM_cons]
    change Reader.outcome (r.tag n inner >>= _) =
      (run _ ('[' :: (inner ++ ']' :: rest))).map Scanner.tags
    rw [run_cons, hopen]
    change _ = (run _ (inner ++ ']' :: rest)).map Scanner.tags
    rw [run_tag hinner, hreader, Reader.outcome_tag]
    cases follow r.tags (decide (n % 2 = 1)) inner <;> rfl
  | bracket n more hbody ih =>
    obtain ⟨r', htags, hfold⟩ := r.foldlM_chars (List.replicate n '\\' ++ ['[']) (pieces more)
    have hopen : step ⟨decide (n % 2 = 1), none, r.tags⟩ '[' =
        .ok ⟨false, some ⟨decide (n % 2 = 1), []⟩, r.tags⟩ := rfl
    rw [pieces_bracket n hbody, hfold, ih, htags, run_append, run_backslashes]
    change _ = (run _ ('[' :: more)).map Scanner.tags
    rw [run_cons, hopen]
    exact (tags_run_of_tagBody?_eq_none hbody).symm
  | char n c more hslash hbracket ih =>
    obtain ⟨r', htags, hfold⟩ := r.foldlM_chars (List.replicate n '\\' ++ [c]) (pieces more)
    have hstep : step ⟨decide (n % 2 = 1), none, r.tags⟩ c = .ok ⟨false, none, r.tags⟩ := by
      simp [step, hbracket, isBackslash, hslash]
    rw [pieces_char n hslash hbracket, hfold, ih, htags, run_append, run_backslashes]
    change _ = (run _ (c :: more)).map Scanner.tags
    rw [run_cons, hstep]
    rfl

theorem cls_stripMarkup {s : String} {f : Fault} (h : stripMarkup s = .error f) :
    start.run s.toList = .error f.cls := by
  have houtcome : Reader.outcome ((pieces s.toList).foldlM Reader.step .start) =
      (start.run s.toList).map Scanner.tags := outcome_pieces .start s.toList
  have hread : (pieces s.toList).foldlM Reader.step .start = .error f := by
    unfold stripMarkup stripChars at h
    cases hfold : (pieces s.toList).foldlM Reader.step .start with
    | error e =>
      rw [hfold] at h
      exact congrArg Except.error (Except.error.inj h)
    | ok r =>
      rw [hfold] at h
      cases h
  rw [hread] at houtcome
  cases hscan : start.run s.toList with
  | error e =>
    rw [hscan] at houtcome
    exact congrArg Except.error (Except.error.inj houtcome).symm
  | ok r =>
    rw [hscan] at houtcome
    cases houtcome

end Scanner
end ScriptProfiling
