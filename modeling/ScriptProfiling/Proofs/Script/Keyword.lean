import ScriptProfiling.Proofs.Text.Blank
import ScriptProfiling.Proofs.Text.Lowercase
import ScriptProfiling.Script.Line
import Mathlib.Data.List.Forall2

/-!
# Keywords

A text spells a keyword letter by letter, each letter in any of its forms. All forms of
letters are word characters and neither blanks nor digits, so a run of blanks or of digits
ends where a keyword begins.
-/
namespace ScriptProfiling

section Runs

variable {p : Char → Bool} {run rest cs : List Char}

/-- A text at whose head a run of characters has ended. -/
def Stops (p : Char → Bool) (cs : List Char) : Prop := ∀ c ∈ cs.head?, p c = false

theorem stops_cons {c : Char} : Stops p (c :: cs) ↔ p c = false := by simp [Stops]

theorem Stops.append (h : Stops p run) (hrest : Stops p rest) : Stops p (run ++ rest) := by
  cases run with
  | nil => exact hrest
  | cons c run => exact stops_cons.mpr (stops_cons.mp h)

theorem stops_dropWhile (p : Char → Bool) (cs : List Char) : Stops p (cs.dropWhile p) := by
  intro c hc
  have hnot := List.head?_dropWhile_not p cs
  rw [Option.mem_def.mp hc] at hnot
  simpa using hnot

theorem stops_of_forall (h : ∀ c ∈ cs, p c = false) : Stops p cs := by
  intro c hc
  exact h c (List.mem_of_head? hc)

theorem drop_length_takeWhile (p : Char → Bool) (cs : List Char) :
    cs.drop (cs.takeWhile p).length = cs.dropWhile p := by
  have hsplit := List.takeWhile_append_dropWhile (p := p) (l := cs)
  calc cs.drop (cs.takeWhile p).length
      = (cs.takeWhile p ++ cs.dropWhile p).drop (cs.takeWhile p).length := by rw [hsplit]
    _ = cs.dropWhile p := List.drop_left

theorem takeWhile_append_of_stops (hrun : ∀ c ∈ run, p c = true) (hrest : Stops p rest) :
    (run ++ rest).takeWhile p = run := by
  rw [List.takeWhile_append_of_pos hrun]
  cases rest with
  | nil => simp
  | cons c rest => simp [stops_cons.mp hrest]

theorem dropWhile_append_of_stops (hrun : ∀ c ∈ run, p c = true) (hrest : Stops p rest) :
    (run ++ rest).dropWhile p = rest := by
  rw [List.dropWhile_append_of_pos hrun]
  cases rest with
  | nil => rfl
  | cons c rest => simp [stops_cons.mp hrest]

end Runs

/-- No blank is a digit: the ranges of the two classes lie apart. -/
theorem isBlank_of_isDigit {c : Char} (h : isDigit c = true) : isBlank c = false := by
  have hapart : ∀ r ∈ blankRanges, ∀ z ∈ digitZeros, r.2 < z ∨ z + 10 ≤ r.1 := by decide +kernel
  simp only [isDigit, digitValue?, Option.isSome_map, List.find?_isSome, Bool.and_eq_true,
    decide_eq_true_eq] at h
  obtain ⟨z, hz, hlow, hhigh⟩ := h
  simp only [isBlank, inRanges, List.any_eq_false, Bool.and_eq_true, decide_eq_true_eq, not_and]
  intro r hr hle
  have := hapart r hr z hz
  omega

namespace Line

/-- The character of a word that is neither a blank nor a digit. -/
def isLetterLike (c : Char) : Bool := isWord c && !isBlank c && !isDigit c

/-- Small letters with the code points of their forms that are no plain letters. -/
def foreignForms : List (Char × Nat) := [('i', 0x130), ('i', 0x131), ('s', 0x17f), ('k', 0x212a)]

section Letters

variable {letter other c : Char} {word cs : List Char}

theorem isLetter_cases (h : isLetter letter c = true) (hsmall : letter.isLower = true) :
    (c.toNat < 128 ∧ c.toLower = letter) ∨ (letter, c.toNat) ∈ foreignForms := by
  simp only [isLetter, Bool.or_eq_true, Bool.and_eq_true, beq_iff_eq] at h
  rcases h with ((hlower | ⟨rfl, hdot⟩) | ⟨rfl, hlong⟩) | ⟨rfl, hkelvin⟩
  · left
    refine ⟨toNat_lt_of_toLower ?_, hlower⟩
    have hbounds : (decide ('a'.val ≤ letter.val) && decide (letter.val ≤ 'z'.val)) = true := hsmall
    have hle : letter.toNat ≤ 122 := by
      rw [Bool.and_eq_true, decide_eq_true_eq, decide_eq_true_eq] at hbounds
      exact UInt32.le_iff_toNat_le.mp hbounds.2
    rw [hlower]
    omega
  · rcases hdot with hdot | hdot <;> simp [hdot, foreignForms]
  · simp [hlong, foreignForms]
  · simp [hkelvin, foreignForms]

theorem isLetterLike_of_isLetter (h : isLetter letter c = true) (hsmall : letter.isLower = true) :
    isLetterLike c = true := by
  have hplain : ∀ n < 128, (Char.ofNat n).toLower.isLower = true →
      isLetterLike (Char.ofNat n) = true := by decide +kernel
  have hforeign : ∀ form ∈ foreignForms, isLetterLike (Char.ofNat form.2) = true := by
    decide +kernel
  rw [← Char.ofNat_toNat c]
  rcases isLetter_cases h hsmall with ⟨hlt, hlower⟩ | hmem
  · apply hplain _ hlt
    rwa [Char.ofNat_toNat, hlower]
  · exact hforeign (letter, c.toNat) hmem

theorem eq_of_isLetter (h : isLetter letter c = true) (hother : isLetter other c = true)
    (hsmall : letter.isLower = true) (hsmallOther : other.isLower = true) : letter = other := by
  have hlarge : ∀ form ∈ foreignForms, ¬ form.2 < 128 := by decide
  have hforms : ∀ form ∈ foreignForms, ∀ another ∈ foreignForms,
      form.2 = another.2 → form.1 = another.1 := by decide
  rcases isLetter_cases h hsmall with ⟨hlt, hlower⟩ | hmem <;>
    rcases isLetter_cases hother hsmallOther with ⟨hlt', hlower'⟩ | hmem'
  · exact hlower.symm.trans hlower'
  · exact absurd hlt (hlarge (other, c.toNat) hmem')
  · exact absurd hlt' (hlarge (letter, c.toNat) hmem)
  · exact hforms (letter, c.toNat) hmem (other, c.toNat) hmem' rfl

end Letters

section Words

variable {word cs rest : List Char}

/-- Text that spells a word, each letter in some form. -/
def Spells (word cs : List Char) : Prop :=
  List.Forall₂ (fun letter c => isLetter letter c = true) word cs

instance (word cs : List Char) : Decidable (Spells word cs) :=
  inferInstanceAs (Decidable (List.Forall₂ ..))

theorem Spells.length_eq (h : Spells word cs) : word.length = cs.length := List.Forall₂.length_eq h

theorem spells_concat {letter : Char} :
    Spells (word ++ [letter]) cs ↔
      ∃ head c, cs = head ++ [c] ∧ Spells word head ∧ isLetter letter c = true := by
  constructor
  · intro h
    have hreverse := List.forall₂_reverse_iff.mpr h
    rw [List.reverse_append, List.reverse_singleton, List.singleton_append,
      List.forall₂_cons_left_iff] at hreverse
    obtain ⟨c, head, hletter, hhead, hcs⟩ := hreverse
    refine ⟨head.reverse, c, by simpa using congrArg List.reverse hcs, ?_, hletter⟩
    unfold Spells
    simpa using List.forall₂_reverse_iff.mpr hhead
  · rintro ⟨head, c, rfl, hhead, hletter⟩
    exact List.rel_append hhead (.cons hletter .nil)

theorem Spells.isLetterLike (h : Spells word cs) (hsmall : ∀ letter ∈ word, letter.isLower = true) :
    ∀ c ∈ cs, isLetterLike c = true := by
  induction h with
  | nil => simp
  | cons hletter _ ih =>
    rw [List.forall_mem_cons] at hsmall ⊢
    exact ⟨isLetterLike_of_isLetter hletter hsmall.1, ih hsmall.2⟩

theorem afterWord?_eq_some :
    afterWord? word cs = some rest ↔ ∃ head, cs = head ++ rest ∧ Spells word head := by
  induction word generalizing cs with
  | nil =>
    rw [afterWord?]
    constructor
    · intro h
      exact ⟨[], Option.some.inj h, .nil⟩
    · rintro ⟨head, rfl, h⟩
      obtain rfl := List.forall₂_nil_left_iff.mp h
      rfl
  | cons letter word ih =>
    cases cs with
    | nil =>
      refine iff_of_false (fun h => by cases h) ?_
      rintro ⟨head, hnil, h⟩
      obtain ⟨rfl, -⟩ := List.append_eq_nil_iff.mp hnil.symm
      cases h
    | cons c cs =>
      rw [afterWord?]
      constructor
      · intro h
        split at h
        · next hletter =>
          obtain ⟨head, rfl, hhead⟩ := ih.mp h
          exact ⟨c :: head, rfl, .cons hletter hhead⟩
        · cases h
      · rintro ⟨head, hcs, h⟩
        cases h with
        | cons hletter hhead =>
          obtain ⟨rfl, rfl⟩ := List.cons.inj hcs
          rw [if_pos hletter]
          exact ih.mpr ⟨_, rfl, hhead⟩

/-- A keyword takes all the blanks behind it, and at least one. -/
theorem afterKeyword?_eq_some {keyword : String} :
    afterKeyword? keyword cs = some rest ↔ ∃ head blanks, cs = head ++ (blanks ++ rest) ∧
      Spells keyword.toList head ∧ blanks ≠ [] ∧ (∀ c ∈ blanks, isBlank c = true) ∧
      Stops isBlank rest := by
  constructor
  · intro h
    unfold afterKeyword? at h
    split at h
    · next c more hword =>
      obtain ⟨head, rfl, hhead⟩ := afterWord?_eq_some.mp hword
      split at h
      · next hblank =>
        obtain rfl := Option.some.inj h
        refine ⟨head, c :: more.takeWhile isBlank, ?_, hhead, by simp, ?_,
          stops_dropWhile isBlank more⟩
        · simp [dropBlanks]
        · simpa [hblank] using fun d hd => List.mem_takeWhile_imp hd
      · cases h
    · cases h
  · rintro ⟨head, blanks, rfl, hhead, hne, hblanks, hrest⟩
    obtain ⟨c, more, rfl⟩ := List.exists_cons_of_ne_nil hne
    rw [List.forall_mem_cons] at hblanks
    have hword : afterWord? keyword.toList (head ++ (c :: more ++ rest)) =
        some (c :: more ++ rest) :=
      afterWord?_eq_some.mpr ⟨head, rfl, hhead⟩
    rw [afterKeyword?, hword]
    simp [hblanks.1, dropBlanks, dropWhile_append_of_stops hblanks.2 hrest]

end Words
end Line
end ScriptProfiling
