import ScriptProfiling.Proofs.Markup.Scanner
import ScriptProfiling.Proofs.Markup.Style

/-!
# Markup put together from parts

What a part of a text does to a scanner, whatever stands before and behind it. A part may
begin a tag that another one completes, so what holds between two parts is said of the tag
under way: that it closes nothing, or that what is ahead does not complete it.

Conditions on a scanner are ordered by how much of a tag they allow to be under way: `Idle` allows
none, `Ready` one that cannot close anything, `Even` any, as long as the next tag is not escaped.
Two parts go together where the condition that the first leaves is the one that the second needs.
-/
namespace ScriptProfiling
namespace Scanner

/-- The result of scanning is as wanted, or a tag that was not meant to be one names
something that cannot be read. The latter takes text that may begin a tag. -/
def Ends (loose : Prop) (good : Scanner → Prop) : Except FaultClass Scanner → Prop
  | .ok s => good s
  | .error c => c = .badValue ∧ loose

/-- What reading a part of a text does. -/
structure Reads (loose : Prop) (before : Scanner → Prop) (cs : List Char)
    (after : Scanner → Prop) : Prop where
  ends : ∀ s, before s → Ends loose after (s.run cs)

section Ends

variable {loose : Prop} {good better : Scanner → Prop} {x : Except FaultClass Scanner}

theorem Ends.bind (h : Ends loose good x) {f : Scanner → Except FaultClass Scanner}
    (hf : ∀ s, good s → Ends loose better (f s)) : Ends loose better (x >>= f) := by
  cases x with
  | error c => exact h
  | ok s => exact hf s h

theorem Ends.mono (h : Ends loose good x) (hgood : ∀ s, good s → better s) :
    Ends loose better x := by
  cases x with
  | error c => exact h
  | ok s => exact hgood s h

/-- What is known of a scanner that has come through is true of it as well. -/
theorem Ends.and (h : Ends loose good x) (hbetter : ∀ s, x = .ok s → better s) :
    Ends loose (fun s => good s ∧ better s) x := by
  cases x with
  | error c => exact h
  | ok s => exact ⟨h, hbetter s rfl⟩

end Ends

section Reads

variable {loose : Prop} {before middle after : Scanner → Prop} {cs ds : List Char}

theorem Reads.append (hfirst : Reads loose before cs middle)
    (hsecond : Reads loose middle ds after) :
    Reads loose before (cs ++ ds) after := by
  refine ⟨fun s hs => ?_⟩
  rw [run_append]
  exact (hfirst.ends s hs).bind hsecond.ends

theorem Reads.mono_left (h : Reads loose before cs after) {before' : Scanner → Prop}
    (hbefore : ∀ s, before' s → before s) : Reads loose before' cs after :=
  ⟨fun s hs => h.ends s (hbefore s hs)⟩

theorem Reads.mono_right (h : Reads loose before cs after) {after' : Scanner → Prop}
    (hafter : ∀ s, after s → after' s) : Reads loose before cs after' :=
  ⟨fun s hs => (h.ends s hs).mono hafter⟩

end Reads

/-- A tag under way, if there is one, does not begin with a slash; and there is none unless
text may begin one. -/
def Calm (loose : Prop) (s : Scanner) : Prop :=
  ∀ k, s.candidate = some k → loose ∧ ∃ c, k.body.getLast? = some c ∧ c ≠ '/'

/-- A tag under way, if there is one, is not completed by the text ahead. -/
def Blocked (s : Scanner) (ahead : List Char) : Prop :=
  ∀ k, s.candidate = some k →
    match k.body with
    | [] => tagBody? ahead = none
    | _ :: _ => closes ahead = false

/-- Some tags are open, perhaps among others. -/
def Keeps (kept : List OpenTag) (s : Scanner) : Prop := kept ⊆ s.tags

/-- A tag that comes next is obeyed. -/
structure Even (kept : List OpenTag) (s : Scanner) : Prop where
  odd : s.odd = false
  kept : Keeps kept s

/-- What comes next can complete no closing tag. -/
structure Ready (loose : Prop) (kept : List OpenTag) (s : Scanner) : Prop extends Even kept s where
  calm : Calm loose s

/-- What comes next can complete no tag. -/
structure Idle (kept : List OpenTag) (s : Scanner) : Prop extends Even kept s where
  candidate : s.candidate = none

theorem calm_of_candidate {loose : Prop} {s : Scanner} (h : s.candidate = none) : Calm loose s := by
  intro k hk
  rw [h] at hk
  cases hk

theorem Idle.ready {loose : Prop} {kept : List OpenTag} {s : Scanner} (h : Idle kept s) :
    Ready loose kept s :=
  ⟨h.toEven, calm_of_candidate h.candidate⟩

section Step

variable {loose : Prop} {kept : List OpenTag} {s : Scanner}

theorem ends_follow {escaped : Bool} {body : List Char} (hslash : body.head? ≠ some '/')
    (hloose : loose) (hkept : kept ⊆ s.tags) :
    Ends loose (Idle kept) ((follow s.tags escaped body).map (⟨false, none, ·⟩)) := by
  cases escaped with
  | true => exact ⟨⟨rfl, hkept⟩, rfl⟩
  | false =>
    rw [follow_opening hslash]
    cases hname : Style.normalName (tagName body) with
    | error f => exact ⟨Style.unreadable_normalName _ f hname, hloose⟩
    | ok name => exact ⟨⟨rfl, List.subset_cons_of_subset _ hkept⟩, rfl⟩

theorem ends_close {k : Candidate} (hcalm : Calm loose s) (hk : s.candidate = some k)
    (hkept : Keeps kept s) :
    Ends loose (Idle kept) ((follow s.tags k.escaped k.body.reverse).map (⟨false, none, ·⟩)) := by
  obtain ⟨hloose, first, hfirst, hslash⟩ := hcalm k hk
  have hhead : k.body.reverse.head? ≠ some '/' := by
    rw [List.head?_reverse, hfirst]
    simpa using hslash
  exact ends_follow hhead hloose hkept

/-- A character other than an opening bracket completes a tag only if that tag opens
something. -/
theorem ends_step {c : Char} {ahead : List Char} (hc : c ≠ '[')
    (hsafe : Calm loose s ∨ Blocked s (c :: ahead)) (hkept : Keeps kept s) :
    Ends loose (fun t => (Calm loose t ∨ Blocked t ahead) ∧ Keeps kept t ∧
      t.odd = (isBackslash c && !s.odd)) (s.step c) := by
  obtain ⟨odd, candidate, tags⟩ := s
  unfold step
  simp only [hc, if_false]
  cases candidate with
  | none => exact ⟨Or.inl nofun, hkept, rfl⟩
  | some k =>
    obtain ⟨escaped, body⟩ := k
    cases body with
    | nil =>
      have hblocked : Blocked ⟨odd, some ⟨escaped, []⟩, tags⟩ (c :: ahead) := by
        refine hsafe.resolve_left fun hcalm => ?_
        obtain ⟨-, d, hd, -⟩ := hcalm _ rfl
        cases hd
      cases hopens : opensTag c with
      | false => exact ⟨Or.inl nofun, hkept, rfl⟩
      | true =>
        refine ⟨Or.inr fun k hk => ?_, hkept, rfl⟩
        obtain rfl := Option.some.inj hk
        exact not_closes_of_tagBody?_eq_none hopens (hblocked _ rfl)
    | cons d body =>
      by_cases hclose : c = ']'
      · obtain rfl := hclose
        have hcalm : Calm loose ⟨odd, some ⟨escaped, d :: body⟩, tags⟩ := by
          refine hsafe.resolve_right fun hblocked => ?_
          have hcloses : closes (']' :: ahead) = false := hblocked _ rfl
          cases hcloses
        dsimp only
        rw [if_pos rfl]
        exact (ends_close hcalm rfl hkept).mono fun t ht =>
          ⟨Or.inl ht.ready.calm, ht.kept, ht.odd⟩
      · dsimp only
        rw [if_neg hclose]
        refine ⟨hsafe.imp (fun hcalm k hk => ?_) fun hblocked k hk => ?_, hkept, rfl⟩
        · obtain rfl := Option.some.inj hk
          simpa using hcalm _ rfl
        · obtain rfl := Option.some.inj hk
          have hcloses : closes (c :: ahead) = false := hblocked _ rfl
          simpa [closes, isBracket, hc, hclose] using hcloses

theorem ends_text {cs ahead : List Char} (hcs : ∀ c ∈ cs, c ≠ '[')
    (hsafe : Calm loose s ∨ Blocked s (cs ++ ahead)) (hkept : Keeps kept s) :
    Ends loose (fun t => (Calm loose t ∨ Blocked t ahead) ∧ Keeps kept t) (s.run cs) := by
  induction cs generalizing s with
  | nil => exact ⟨hsafe, hkept⟩
  | cons c cs ih =>
    obtain ⟨hc, hcs⟩ := List.forall_mem_cons.mp hcs
    rw [run_cons]
    refine (ends_step hc hsafe hkept).bind ?_
    rintro t ⟨hsafe, hkept, -⟩
    exact ih hcs hsafe hkept

end Step

end Scanner
end ScriptProfiling
