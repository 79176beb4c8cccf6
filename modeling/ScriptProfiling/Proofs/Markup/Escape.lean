import ScriptProfiling.Markup.Escape
import ScriptProfiling.Proofs.Markup.Parts

/-!
# Escaped text

Escaped text has no tag of its own, but it may complete a tag that was under way before it,
and it may leave one under way. It closes nothing unless a slash had begun before it, and
without slashes it begins nothing that closes.

What is said here is said to a scanner: it stands for any text before the escaped one, of which only
the tag under way and the last backslashes matter.
-/
namespace ScriptProfiling
/-- Text with its tags escaped, whatever stands at its end. -/
def escapedTags (x : List Char) : List Char := (pieces x).flatMap escapedPiece

section Text

variable (n : Nat) {more inner rest x : List Char} {c : Char}

theorem flatMap_escapedPiece_chars (cs : List Char) :
    (cs.map Piece.char).flatMap escapedPiece = cs := by
  induction cs with
  | nil => rfl
  | cons c cs ih => rw [List.map_cons, List.flatMap_cons, ih]; rfl

theorem escapedTags_backslashes :
    escapedTags (List.replicate n '\\') = List.replicate n '\\' := by
  rw [escapedTags, pieces_backslashes, flatMap_escapedPiece_chars]

theorem escapedTags_tag (h : tagBody? more = some (inner, rest)) :
    escapedTags (List.replicate n '\\' ++ '[' :: more) =
      List.replicate (2 * n + 1) '\\' ++ '[' :: (inner ++ ']' :: escapedTags rest) := by
  simp [escapedTags, pieces_tag n h, escapedPiece, Piece.source]

theorem escapedTags_bracket (h : tagBody? more = none) :
    escapedTags (List.replicate n '\\' ++ '[' :: more) =
      List.replicate n '\\' ++ '[' :: escapedTags more := by
  rw [escapedTags, pieces_bracket n h, List.flatMap_append, flatMap_escapedPiece_chars,
    List.append_assoc]
  rfl

theorem escapedTags_char (hslash : c ≠ '\\') (hbracket : c ≠ '[') :
    escapedTags (List.replicate n '\\' ++ c :: more) =
      List.replicate n '\\' ++ c :: escapedTags more := by
  rw [escapedTags, pieces_char n hslash hbracket, List.flatMap_append, flatMap_escapedPiece_chars,
    List.append_assoc]
  rfl

theorem mem_escapedTags (h : c ∈ escapedTags x) : c ∈ x ∨ c = '\\' := by
  induction x using piecesInduction with
  | backslashes n => exact Or.inl (escapedTags_backslashes n ▸ h)
  | tag n more inner rest hbody ih =>
    rw [escapedTags_tag n hbody] at h
    obtain ⟨-, rfl⟩ := tagBody?_eq_some hbody
    simp only [List.mem_append, List.mem_cons, List.mem_replicate] at h ⊢
    tauto
  | bracket n more hbody ih =>
    rw [escapedTags_bracket n hbody] at h
    simp only [List.mem_append, List.mem_cons] at h ⊢
    tauto
  | char n d more hslash hbracket ih =>
    rw [escapedTags_char n hslash hbracket] at h
    simp only [List.mem_append, List.mem_cons] at h ⊢
    tauto

theorem mem_escapeChars (h : c ∈ escapeChars x) : c ∈ x ∨ c = '\\' := by
  change c ∈ closeEscape (escapedTags x) at h
  unfold closeEscape at h
  split at h
  · rcases List.mem_append.mp h with h | h
    · exact mem_escapedTags h
    · exact Or.inr (List.mem_singleton.mp h)
  · exact mem_escapedTags h

theorem getLast?_escapedTags (x : List Char) : (escapedTags x).getLast? = x.getLast? := by
  induction x using piecesInduction with
  | backslashes n => rw [escapedTags_backslashes]
  | tag n more inner rest hbody ih =>
    rw [escapedTags_tag n hbody]
    obtain ⟨-, rfl⟩ := tagBody?_eq_some hbody
    simp [List.getLast?_append, List.getLast?_cons, ih]
  | bracket n more hbody ih =>
    rw [escapedTags_bracket n hbody]
    simp [List.getLast?_append, List.getLast?_cons, ih]
  | char n d more hslash hbracket ih =>
    rw [escapedTags_char n hslash hbracket]
    simp [List.getLast?_append, List.getLast?_cons, ih]

theorem closeEscape_of_getLast? (h : x.getLast? = some c) (hc : isBackslash c = false) :
    closeEscape x = x := by
  obtain ⟨before, rfl⟩ := List.getLast?_eq_some_iff.mp h
  simp [closeEscape, hc]

theorem getLast?_escapeChars (h : x.getLast? = some c) (hc : isBackslash c = false) :
    (escapeChars x).getLast? = some c := by
  have hlast : (escapedTags x).getLast? = some c := (getLast?_escapedTags x).trans h
  change (closeEscape (escapedTags x)).getLast? = some c
  rw [closeEscape_of_getLast? hlast hc, hlast]

end Text

namespace Scanner

section Escaped

variable {loose : Prop} {kept : List OpenTag}

/-- Backslashes complete nothing, whatever is under way. -/
theorem exists_run_backslashes (s : Scanner) (n : Nat) :
    ∃ t, s.run (List.replicate n '\\') = .ok t ∧ t.tags = s.tags ∧
      t.odd = (s.odd ^^ decide (n % 2 = 1)) := by
  have hstep : ∀ s : Scanner, ∃ t, s.step '\\' = .ok t ∧ t.tags = s.tags ∧ t.odd = !s.odd := by
    rintro ⟨odd, _ | ⟨escaped, _ | ⟨d, body⟩⟩, tags⟩ <;> exact ⟨_, rfl, rfl, rfl⟩
  induction n generalizing s with
  | zero => exact ⟨s, rfl, rfl, by simp⟩
  | succ n ih =>
    obtain ⟨t, hs, htags, hodd⟩ := hstep s
    obtain ⟨u, hrun, hutags, huodd⟩ := ih t
    refine ⟨u, ?_, hutags.trans htags, ?_⟩
    · rw [List.replicate_succ, run_cons, hs]
      exact hrun
    · have hparity : decide ((n + 1) % 2 = 1) = !decide (n % 2 = 1) := by
        rw [← decide_not, decide_eq_decide]
        omega
      rw [huodd, hodd, hparity]
      cases s.odd <;> simp

/-- A tag behind an odd number of backslashes is text, and nothing is under way behind it. -/
theorem run_escaped_tag {s : Scanner} (hodd : s.odd = false) (n : Nat) {inner : List Char}
    (h : IsBody inner) (rest : List Char) :
    s.run (List.replicate (2 * n + 1) '\\' ++ '[' :: (inner ++ ']' :: rest)) =
      run ⟨false, none, s.tags⟩ rest := by
  obtain ⟨t, hrun, htags, ht⟩ := exists_run_backslashes s (2 * n + 1)
  have hescaped : t.odd = true := by
    have hparity : (2 * n + 1) % 2 = 1 := by omega
    rw [ht, hodd, hparity]
    rfl
  have hopen : t.step '[' = .ok ⟨false, some ⟨true, []⟩, s.tags⟩ := by
    rw [← htags, ← hescaped]
    rfl
  rw [run_append, hrun]
  change t.run ('[' :: _) = _
  rw [run_cons, hopen]
  change run _ (inner ++ ']' :: rest) = _
  rw [run_tag h]
  rfl

theorem ends_escapedTags (x : List Char) {s : Scanner} (hodd : s.odd = false)
    (hsafe : Calm loose s ∨ Blocked s x) (hkept : Keeps kept s) :
    Ends loose (Keeps kept) (s.run (escapedTags x)) := by
  have hslashes : ∀ n, ∀ c ∈ List.replicate n '\\', c ≠ '[' := by
    intro n c hc
    rw [(List.mem_replicate.mp hc).2]
    decide
  induction x using piecesInduction generalizing s with
  | backslashes n =>
    rw [escapedTags_backslashes]
    have hsafe : Calm loose s ∨ Blocked s (List.replicate n '\\' ++ []) := by rwa [List.append_nil]
    exact (ends_text (hslashes n) hsafe hkept).mono fun t ht => ht.2
  | tag n more inner rest hbody ih =>
    rw [escapedTags_tag n hbody, run_escaped_tag hodd n (tagBody?_eq_some hbody).1]
    exact ih rfl (Or.inl (calm_of_candidate rfl)) hkept
  | bracket n more hbody ih =>
    rw [escapedTags_bracket n hbody, run_append]
    refine (ends_text (hslashes n) hsafe hkept).bind ?_
    rintro t ⟨-, hkept⟩
    -- no tag begins here, so whatever is ahead completes none
    refine ih (s := ⟨false, some ⟨t.odd, []⟩, t.tags⟩) rfl (Or.inr fun k hk => ?_) hkept
    obtain rfl := Option.some.inj hk
    exact hbody
  | char n c more hslash hbracket ih =>
    rw [escapedTags_char n hslash hbracket, run_append]
    refine (ends_text (hslashes n) hsafe hkept).bind ?_
    rintro t ⟨hsafe, hkept⟩
    rw [run_cons]
    refine (ends_step hbracket hsafe hkept).bind ?_
    rintro u ⟨hsafe, hkept, hu⟩
    refine ih ?_ hsafe hkept
    rw [hu]
    simp [isBackslash, hslash]

theorem reads_escaped (x : List Char) :
    Reads loose (Ready loose kept) (escapeChars x) (Keeps kept) := by
  refine ⟨fun s hs => ?_⟩
  have htags : Ends loose (Keeps kept) (s.run (escapedTags x)) :=
    ends_escapedTags x hs.odd (Or.inl hs.calm) hs.kept
  change Ends loose (Keeps kept) (s.run (closeEscape (escapedTags x)))
  unfold closeEscape
  split
  · rw [run_append]
    refine htags.bind fun t ht => ?_
    obtain ⟨u, hrun, hsame, -⟩ := exists_run_backslashes t 1
    change Ends loose _ (t.run (List.replicate 1 '\\'))
    rw [hrun]
    exact fun tag htag => hsame ▸ ht htag
  · exact htags

end Escaped

section Calm

variable {loose : Prop} {kept : List OpenTag} {s t : Scanner} {cs : List Char}

theorem step_eq_ok {c : Char} (h : s.step c = .ok t) :
    (c = '[' ∧ t.candidate = some ⟨s.odd, []⟩) ∨ (c ≠ '[' ∧ t.odd = (isBackslash c && !s.odd) ∧
      (t.candidate = none ∨ ∃ k, s.candidate = some k ∧
        t.candidate = some ⟨k.escaped, c :: k.body⟩)) := by
  obtain ⟨odd, candidate, tags⟩ := s
  by_cases hc : c = '['
  · obtain rfl := hc
    obtain rfl := Except.ok.inj h
    exact Or.inl ⟨rfl, rfl⟩
  · refine Or.inr ⟨hc, ?_⟩
    unfold step at h
    rw [if_neg hc] at h
    cases candidate with
    | none =>
      obtain rfl := Except.ok.inj h
      exact ⟨rfl, Or.inl rfl⟩
    | some k =>
      obtain ⟨escaped, body⟩ := k
      cases body with
      | nil =>
        obtain rfl := Except.ok.inj h
        refine ⟨rfl, ?_⟩
        cases opensTag c with
        | false => exact Or.inl rfl
        | true => exact Or.inr ⟨_, rfl, rfl⟩
      | cons d body =>
        by_cases hclose : c = ']'
        · obtain rfl := hclose
          obtain ⟨tags, -, rfl⟩ := map_eq_ok.mp h
          exact ⟨rfl, Or.inl rfl⟩
        · dsimp only at h
          rw [if_neg hclose] at h
          obtain rfl := Except.ok.inj h
          exact ⟨rfl, Or.inr ⟨_, rfl, rfl⟩⟩

/-- No tag that is under way has a slash. -/
def NoSlash (s : Scanner) : Prop := ∀ k, s.candidate = some k → '/' ∉ k.body

theorem noSlash_run (h : s.run cs = .ok t) (hcs : '/' ∉ cs) (hs : NoSlash s) : NoSlash t := by
  induction cs generalizing s with
  | nil => exact Except.ok.inj h ▸ hs
  | cons c cs ih =>
    rw [run_cons] at h
    obtain ⟨u, hstep, hrest⟩ := bind_eq_ok.mp h
    rw [List.mem_cons, not_or] at hcs
    refine ih hrest hcs.2 fun k hk => ?_
    rcases step_eq_ok hstep with ⟨-, hu⟩ | ⟨-, -, hu | ⟨j, hj, hu⟩⟩
    · rw [hu] at hk
      obtain rfl := Option.some.inj hk
      exact List.not_mem_nil
    · rw [hu] at hk
      cases hk
    · rw [hu] at hk
      obtain rfl := Option.some.inj hk
      exact List.not_mem_cons_of_ne_of_not_mem hcs.1 (hs j hj)

theorem idle_run (h : s.run cs = .ok t) (hcs : '[' ∉ cs) (hs : s.candidate = none) :
    t.candidate = none := by
  induction cs generalizing s with
  | nil => exact Except.ok.inj h ▸ hs
  | cons c cs ih =>
    rw [run_cons] at h
    obtain ⟨u, hstep, hrest⟩ := bind_eq_ok.mp h
    rw [List.mem_cons, not_or] at hcs
    refine ih hrest hcs.2 ?_
    rcases step_eq_ok hstep with ⟨hc, -⟩ | ⟨-, -, hu | ⟨j, hj, -⟩⟩
    · exact absurd hc.symm hcs.1
    · exact hu
    · rw [hs] at hj
      cases hj

theorem run_getLast? {c : Char} (h : s.run cs = .ok t) (hlast : cs.getLast? = some c)
    (hbracket : c ≠ '[') (hslash : isBackslash c = false) :
    t.odd = false ∧ ∀ k, t.candidate = some k → k.body ≠ [] := by
  obtain ⟨ds, rfl⟩ := List.getLast?_eq_some_iff.mp hlast
  rw [run_append] at h
  obtain ⟨u, -, hrun⟩ := bind_eq_ok.mp h
  rw [run_cons] at hrun
  obtain ⟨v, hstep, hv⟩ := bind_eq_ok.mp hrun
  obtain rfl := Except.ok.inj hv
  rcases step_eq_ok hstep with ⟨hc, -⟩ | ⟨-, hodd, hcandidate⟩
  · exact absurd hc hbracket
  · refine ⟨by rw [hodd, hslash]; rfl, fun k hk => ?_⟩
    rcases hcandidate with hnone | ⟨j, -, hsome⟩
    · rw [hnone] at hk
      cases hk
    · rw [hsome] at hk
      obtain rfl := Option.some.inj hk
      exact List.cons_ne_nil _ _

theorem calm_run_escaped {x : List Char} {c : Char} (h : s.run (escapeChars x) = .ok t)
    (hs : s.candidate = none) (hslash : '/' ∉ x) (hlast : x.getLast? = some c)
    (hbracket : c ≠ '[') (hback : isBackslash c = false) (hloose : '[' ∈ x → loose) :
    t.odd = false ∧ Calm loose t := by
  have habsent : ∀ d, d ∉ x → d ≠ '\\' → d ∉ escapeChars x := by
    intro d hd hne hmem
    exact (mem_escapeChars hmem).elim hd hne
  obtain ⟨hodd, hbody⟩ := run_getLast? h (getLast?_escapeChars hlast hback) hbracket hback
  have hnoSlash : NoSlash t := by
    refine noSlash_run h (habsent '/' hslash (by decide)) fun k hk => ?_
    rw [hs] at hk
    cases hk
  refine ⟨hodd, fun k hk => ⟨?_, ?_⟩⟩
  · by_contra hnot
    have hnone : t.candidate = none :=
      idle_run h (habsent '[' (fun hmem => hnot (hloose hmem)) (by decide)) hs
    rw [hnone] at hk
    cases hk
  · have hd := List.getLast?_eq_some_getLast (hbody k hk)
    exact ⟨_, hd, fun heq => hnoSlash k hk (heq ▸ List.mem_of_getLast? hd)⟩

/-- Escaped text without slashes leaves at most the beginning of an opening tag behind. -/
theorem reads_escaped_calm {x : List Char} {c : Char} (hslash : '/' ∉ x)
    (hlast : x.getLast? = some c) (hbracket : c ≠ '[') (hback : isBackslash c = false)
    (hloose : '[' ∈ x → loose) :
    Reads loose (Idle kept) (escapeChars x) (Ready loose kept) := by
  refine ⟨fun s hs => ?_⟩
  have hescaped : Ends loose (Keeps kept) (s.run (escapeChars x)) :=
    (reads_escaped x).ends s hs.ready
  have hends := hescaped.and fun t ht =>
    calm_run_escaped ht hs.candidate hslash hlast hbracket hback hloose
  exact hends.mono fun t ht => ⟨⟨ht.2.1, ht.1⟩, ht.2.2⟩

end Calm

end Scanner
end ScriptProfiling
