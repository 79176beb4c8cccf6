import ScriptProfiling.Text.Lowercase

/-!
# What becomes lower case

Apart from the sigma, each character of a text becomes small for itself. A dot comes of a dot only,
and plain characters come of plain ones but for the Kelvin sign. Plain letters may be made small
before all others.

The exception matters to file names: an extension of plain letters is compared in lower case, and
the Kelvin sign is the one character by which a name can end in it without having it.
-/
namespace ScriptProfiling

variable {c d : Char} {cs : List Char}

theorem lowerAfter_cons (hc : c.toNat ≠ 0x3a3) (before : List Char) :
    lowerAfter before (c :: cs) = lowerChar c ++ lowerAfter (c :: before) cs := by
  rw [lowerAfter, if_neg hc]

theorem mem_lowerAfter (hc : c.toNat ≠ 0x3a3) (hd : d ∈ lowerChar c) (before : List Char)
    (h : c ∈ cs) : d ∈ lowerAfter before cs := by
  induction cs generalizing before with
  | nil => cases h
  | cons head cs ih =>
    rcases List.mem_cons.mp h with rfl | h
    · rw [lowerAfter_cons hc]
      exact List.mem_append_left _ hd
    · rw [lowerAfter]
      exact List.mem_append_right _ (ih _ h)

theorem lowerChar_of_lt (h : c.toNat < 128) : lowerChar c = [c.toLower] := by
  have hall : ∀ n < 128, lowerChar (Char.ofNat n) = [(Char.ofNat n).toLower] := by decide +kernel
  simpa using hall c.toNat h

theorem toNat_toLower (c : Char) : c.toLower.toNat = c.toNat ∨
    ∃ n < 26, c.toNat = 65 + n ∧ c.toLower.toNat = 97 + n := by
  by_cases hc : c.toNat < 128
  · have hall : ∀ n < 128, (Char.ofNat n).toLower.toNat = n ∨
        ∃ m < 26, n = 65 + m ∧ (Char.ofNat n).toLower.toNat = 97 + m := by decide +kernel
    simpa using hall c.toNat hc
  · left
    unfold Char.toLower
    split
    · next hcapital =>
      have hle : c.toNat ≤ 90 := by
        simpa [Char.le_def, UInt32.le_iff_toNat_le] using hcapital.2
      omega
    · rfl

theorem toNat_toLower_lt_iff : c.toLower.toNat < 128 ↔ c.toNat < 128 := by
  rcases toNat_toLower c with hsame | ⟨n, hn, hcapital, hsmall⟩ <;> omega

theorem toNat_lt_of_toLower (h : c.toLower.toNat < 128) : c.toNat < 128 :=
  toNat_toLower_lt_iff.mp h

/-- A capital that is no plain letter and becomes one. -/
def kelvinSign : Char := Char.ofNat 0x212a

/-- What a character may become in a text. -/
def Becomes (c : Char) (small : List Char) : Prop :=
  small = lowerChar c ∨
    c.toNat = 0x3a3 ∧ (small = [Char.ofNat 0x3c2] ∨ small = [Char.ofNat 0x3c3])

section Becoming

variable {small before : List Char}

/-- Each run of capitals leads to small letters that are characters. -/
theorem lowerChar_cases (c : Char) :
    lowerChar c = ['i', Char.ofNat 0x307] ∨ lowerChar c = [c] ∨
      ∃ r ∈ capitalRuns, r.1 ≤ c.toNat ∧ c.toNat ≤ r.2.1 ∧
        ∃ d, lowerChar c = [d] ∧ (d.toNat : Int) = c.toNat + r.2.2.2 := by
  have hletters : ∀ r ∈ capitalRuns, (0 : Int) ≤ r.1 + r.2.2.2 ∧
      ((r.2.1 : Int) + r.2.2.2 < 0xd800 ∨
        (0xe000 : Int) ≤ r.1 + r.2.2.2 ∧ (r.2.1 : Int) + r.2.2.2 < 0x110000) := by decide +kernel
  unfold lowerChar lowerCodePoint
  split
  · exact Or.inl rfl
  right
  split
  · next r hr =>
    right
    obtain ⟨hpos, hvalid⟩ := hletters r (List.mem_of_find?_eq_some hr)
    have hwithin := List.find?_some hr
    simp only [Bool.and_eq_true, decide_eq_true_eq] at hwithin
    refine ⟨r, List.mem_of_find?_eq_some hr, hwithin.1.1, hwithin.1.2, _, rfl, ?_⟩
    have hchar : ((c.toNat : Int) + r.2.2.2).toNat.isValidChar := by
      unfold Nat.isValidChar
      omega
    rw [Char.ofNat, dif_pos hchar]
    change ((((c.toNat : Int) + r.2.2.2).toNat : Nat) : Int) = _
    omega
  · left
    rw [Char.ofNat_toNat]

theorem lowerAfter_cons_becomes (c : Char) (before cs : List Char) :
    ∃ small, Becomes c small ∧
      lowerAfter before (c :: cs) = small ++ lowerAfter (c :: before) cs := by
  rw [lowerAfter]
  refine ⟨_, ?_, rfl⟩
  split
  · next hsigma =>
    right
    refine ⟨hsigma, ?_⟩
    split
    · exact Or.inl rfl
    · exact Or.inr rfl
  · exact Or.inl rfl

theorem Becomes.ne_nil (h : Becomes c small) : small ≠ [] := by
  rcases h with rfl | ⟨-, rfl | rfl⟩
  · rcases lowerChar_cases c with h | h | ⟨r, -, -, -, d, h, -⟩ <;>
      rw [h] <;> exact List.cons_ne_nil _ _
  · exact List.cons_ne_nil _ _
  · exact List.cons_ne_nil _ _

theorem Becomes.eq_of_dot (h : Becomes c small) (hdot : '.' ∈ small) : c = '.' := by
  have habove : ∀ r ∈ capitalRuns, (46 : Int) < r.1 + r.2.2.2 := by decide +kernel
  rcases h with rfl | ⟨-, rfl | rfl⟩
  · rcases lowerChar_cases c with h | h | ⟨r, hr, hfirst, -, d, h, hd⟩ <;> rw [h] at hdot
    · exact absurd hdot (by decide)
    · exact (List.mem_singleton.mp hdot).symm
    · have hcode : (d.toNat : Int) = 46 := by rw [← List.mem_singleton.mp hdot]; rfl
      have := habove r hr
      omega
  · exact absurd hdot (by decide)
  · exact absurd hdot (by decide)

theorem Becomes.of_dot (h : Becomes '.' small) : small = ['.'] := by
  rcases h with rfl | ⟨h, -⟩
  · exact lowerChar_of_lt (by decide)
  · cases h

/-- Of all characters that are not plain, only the Kelvin sign becomes plain. -/
theorem Becomes.plain (h : Becomes c small) (hplain : ∀ d ∈ small, d.toNat < 128) :
    c.toNat < 128 ∨ c = kelvinSign := by
  have habove : ∀ r ∈ capitalRuns, r.2.1 < 128 ∨ (128 : Int) ≤ r.1 + r.2.2.2 ∨
      r.1 = 0x212a ∧ r.2.1 = 0x212a := by decide +kernel
  rcases h with rfl | ⟨-, rfl | rfl⟩
  · rcases lowerChar_cases c with h | h | ⟨r, hr, hfirst, hlast, d, h, hd⟩ <;>
      rw [h] at hplain
    · exact absurd (hplain (Char.ofNat 0x307) (by simp)) (by decide)
    · exact Or.inl (hplain c (List.mem_singleton_self c))
    · have hlt := hplain d (List.mem_singleton_self d)
      rcases habove r hr with hsmall | hlarge | hkelvin
      · left
        omega
      · omega
      · right
        have hcode : c.toNat = 0x212a := by omega
        rw [kelvinSign, ← hcode, Char.ofNat_toNat]
  · exact absurd (hplain _ (List.mem_singleton_self _)) (by decide)
  · exact absurd (hplain _ (List.mem_singleton_self _)) (by decide)

/-- A text has its dots in lower case, and no others. -/
theorem count_dot_lowerAfter (before cs : List Char) :
    (lowerAfter before cs).count '.' = cs.count '.' := by
  induction cs generalizing before with
  | nil => rfl
  | cons c cs ih =>
    obtain ⟨small, hsmall, hcons⟩ := lowerAfter_cons_becomes c before cs
    rw [hcons, List.count_append, ih]
    by_cases hc : c = '.'
    · subst hc
      rw [hsmall.of_dot, List.count_cons_self, List.count_cons_self, List.count_nil]
      omega
    · have hnone : small.count '.' = 0 :=
        List.count_eq_zero.mpr fun hdot => hc (hsmall.eq_of_dot hdot)
      rw [hnone, List.count_cons_of_ne hc, Nat.zero_add]

theorem head?_of_lowerAfter (h : (lowerAfter before cs).head? = some '.') :
    cs.head? = some '.' := by
  cases cs with
  | nil => exact h
  | cons c cs =>
    obtain ⟨small, hsmall, hcons⟩ := lowerAfter_cons_becomes c before cs
    obtain ⟨d, rest, rfl⟩ := List.exists_cons_of_ne_nil hsmall.ne_nil
    rw [hcons, List.cons_append, List.head?_cons] at h
    obtain rfl := Option.some.inj h
    rw [hsmall.eq_of_dot List.mem_cons_self, List.head?_cons]

theorem lowerAfter_eq_nil : lowerAfter before cs = [] ↔ cs = [] := by
  cases cs with
  | nil => exact iff_of_true rfl rfl
  | cons c cs =>
    obtain ⟨small, hsmall, hcons⟩ := lowerAfter_cons_becomes c before cs
    refine iff_of_false ?_ (List.cons_ne_nil _ _)
    rw [hcons]
    exact List.append_ne_nil_of_left_ne_nil hsmall.ne_nil _

theorem plain_of_lowerAfter (h : ∀ d ∈ lowerAfter before cs, d.toNat < 128) :
    ∀ c ∈ cs, c.toNat < 128 ∨ c = kelvinSign := by
  induction cs generalizing before with
  | nil => exact fun c hc => absurd hc List.not_mem_nil
  | cons c cs ih =>
    obtain ⟨small, hsmall, hcons⟩ := lowerAfter_cons_becomes c before cs
    rw [hcons] at h
    exact List.forall_mem_cons.mpr
      ⟨hsmall.plain fun d hd => h d (List.mem_append_left _ hd),
        ih fun d hd => h d (List.mem_append_right _ hd)⟩

theorem lowerAfter_of_plain (before : List Char) (h : ∀ c ∈ cs, c.toNat < 128) :
    lowerAfter before cs = cs.map Char.toLower := by
  induction cs generalizing before with
  | nil => rfl
  | cons c cs ih =>
    obtain ⟨hc, hcs⟩ := List.forall_mem_cons.mp h
    rw [lowerAfter_cons (by omega), lowerChar_of_lt hc, ih _ hcs, List.map_cons,
      List.singleton_append]

end Becoming

section Folding

/-- What is the same for plain letters in both cases is so for all characters. -/
theorem apply_toLower {α : Type} (f : Nat → α) (h : ∀ n < 26, f (97 + n) = f (65 + n)) (c : Char) :
    f c.toLower.toNat = f c.toNat := by
  rcases toNat_toLower c with hsame | ⟨n, hn, hcapital, hsmall⟩
  · rw [hsame]
  · rw [hcapital, hsmall, h n hn]

theorem caseIgnorable_letters {n : Nat} (hn : n < 26) :
    inRanges caseIgnorableRanges (97 + n) = inRanges caseIgnorableRanges (65 + n) := by
  have hranges : ∀ r ∈ caseIgnorableRanges, r.2 < 65 ∨ 122 < r.1 ∨ 90 < r.1 ∧ r.2 < 97 := by
    decide +kernel
  have hnone : ∀ m, 65 ≤ m ∧ m ≤ 90 ∨ 97 ≤ m ∧ m ≤ 122 →
      inRanges caseIgnorableRanges m = false := by
    intro m hm
    apply List.any_eq_false.mpr
    intro r hr
    have := hranges r hr
    simp only [Bool.and_eq_true, decide_eq_true_eq]
    omega
  rw [hnone _ (Or.inr (by omega)), hnone _ (Or.inl (by omega))]

theorem meetsCased_cons (c : Char) (cs : List Char) : meetsCased (c :: cs) =
    if inRanges caseIgnorableRanges c.toNat then meetsCased cs
    else inRanges casedRanges c.toNat := by
  unfold meetsCased
  rw [List.dropWhile_cons]
  cases inRanges caseIgnorableRanges c.toNat <;> rfl

theorem meetsCased_map_toLower (cs : List Char) :
    meetsCased (cs.map Char.toLower) = meetsCased cs := by
  induction cs with
  | nil => rfl
  | cons c cs ih =>
    have hignorable :=
      apply_toLower (inRanges caseIgnorableRanges) (fun _ => caseIgnorable_letters) c
    have hcased := apply_toLower (inRanges casedRanges) (by decide +kernel) c
    rw [List.map_cons, meetsCased_cons, meetsCased_cons, ih, hignorable, hcased]

theorem lowerAfter_map_toLower (before cs : List Char) :
    lowerAfter (before.map Char.toLower) (cs.map Char.toLower) = lowerAfter before cs := by
  induction cs generalizing before with
  | nil => rfl
  | cons c cs ih =>
    have hsigma := apply_toLower (decide <| · = 0x3a3) (by decide +kernel) c
    have hchar := apply_toLower (fun n => lowerChar (Char.ofNat n)) (by decide +kernel) c
    simp only [decide_eq_decide, Char.ofNat_toNat] at hsigma hchar
    rw [List.map_cons, lowerAfter, lowerAfter, ← ih, List.map_cons, meetsCased_map_toLower,
      meetsCased_map_toLower, hchar]
    simp only [hsigma]

theorem lowercase_map_toLower (cs : List Char) : lowercase (cs.map Char.toLower) = lowercase cs :=
  lowerAfter_map_toLower [] cs

end Folding

end ScriptProfiling
