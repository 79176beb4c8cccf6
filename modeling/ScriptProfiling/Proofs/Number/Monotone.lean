import ScriptProfiling.Proofs.Number.Magnitude
import ScriptProfiling.Proofs.Number.Range

/-!
# Rounding keeps the order

Of two quotients the larger is not rounded to the smaller number. Where they are rounded at
the same exponent their mantissas are in order; where they are not, a power of two lies
between them that both are rounded toward.

A quotient is first scaled so that its mantissa has 53 bits at most, which is then made whole.
Rounding whole numbers is monotone at one exponent; a mantissa that grows up to the limit is packed
with the next exponent and half the size, which is the same value.
-/
namespace ScriptProfiling

section Quotients

variable {n d n' d' : Nat}

theorem roundQuotient_mono (hd : 0 < d) (hd' : 0 < d') (h : n * d' ≤ n' * d) :
    roundQuotient n d ≤ roundQuotient n' d' := by
  have hself := (roundQuotient_le_iff (n := n') hd').mp (Nat.le_refl _)
  generalize roundQuotient n' d' = m at *
  have hscaled : 2 * n * d' ≤ 2 * n' * d := by
    rw [Nat.mul_assoc, Nat.mul_assoc]
    exact Nat.mul_le_mul_left 2 h
  have hswap : (2 * m + 1) * d' * d = (2 * m + 1) * d * d' := Nat.mul_right_comm _ _ _
  rw [roundQuotient_le_iff hd]
  rcases hself with hlt | ⟨heq, heven⟩
  · have hbelow : 2 * n * d' < (2 * m + 1) * d * d' := by
      rw [← hswap]
      exact hscaled.trans_lt (Nat.mul_lt_mul_of_pos_right hlt hd)
    exact Or.inl (Nat.lt_of_mul_lt_mul_right hbelow)
  · have hmost : 2 * n * d' ≤ (2 * m + 1) * d * d' := by rwa [← hswap, ← heq]
    rcases (Nat.le_of_mul_le_mul_right hmost hd').lt_or_eq with h | h
    · exact Or.inl h
    · exact Or.inr ⟨h, heven⟩

theorem binaryExponent_mono (hn : 0 < n) (hd : 0 < d) (hn' : 0 < n') (hd' : 0 < d')
    (h : n * d' ≤ n' * d) : binaryExponent n d ≤ binaryExponent n' d' := by
  obtain ⟨hlow, -⟩ := binaryExponent_spec hn hd
  obtain ⟨-, hhigh⟩ := binaryExponent_spec hn' hd'
  have hdpos : (0 : ℚ) < d := Nat.cast_pos.mpr hd
  have hd'pos : (0 : ℚ) < d' := Nat.cast_pos.mpr hd'
  have hcross : (n * d' : ℚ) ≤ n' * d := by exact_mod_cast h
  by_contra hlt
  have hpower : (2 : ℚ) ^ (binaryExponent n' d' + 1) ≤ 2 ^ binaryExponent n d :=
    zpow_le_zpow_right₀ one_le_two (by omega)
  have hbetween : (n' * d : ℚ) < n * d' :=
    calc (n' * d : ℚ) < d' * 2 ^ (binaryExponent n' d' + 1) * d :=
          mul_lt_mul_of_pos_right hhigh hdpos
      _ ≤ d' * 2 ^ binaryExponent n d * d :=
        mul_le_mul_of_nonneg_right (mul_le_mul_of_nonneg_left hpower hd'pos.le) hdpos.le
      _ = d * 2 ^ binaryExponent n d * d' := by ring
      _ ≤ n * d' := mul_le_mul_of_nonneg_right hlow hd'pos.le
  exact absurd hcross (not_le.mpr hbetween)

/-- The number that a quotient is rounded to. -/
def roundedValue (n d : Nat) : ℚ := roundedMantissa n d * 2 ^ roundingExponent n d

theorem roundedValue_nonneg (n d : Nat) : 0 ≤ roundedValue n d :=
  mul_nonneg (Nat.cast_nonneg _) (zpow_pos two_pos _).le

theorem roundedValue_zero (hd : 0 < d) : roundedValue 0 d = 0 := by
  have hmantissa : roundedMantissa 0 d = 0 := by
    have hpos : 0 < raise d (roundingExponent 0 d) := raise_pos hd _
    simp [roundedMantissa, raise, roundQuotient, Nat.pos_of_mul_pos_right hpos]
  rw [roundedValue, hmantissa, Nat.cast_zero, zero_mul]

theorem roundedValue_mono (hd : 0 < d) (hd' : 0 < d') (h : n * d' ≤ n' * d) :
    roundedValue n d ≤ roundedValue n' d' := by
  rcases Nat.eq_zero_or_pos n with rfl | hn
  · rw [roundedValue_zero hd]
    exact roundedValue_nonneg n' d'
  have hn' : 0 < n' := by
    have hpos : 0 < n' * d := (Nat.mul_pos hn hd').trans_le h
    exact Nat.pos_of_mul_pos_right hpos
  have hexponent : roundingExponent n d ≤ roundingExponent n' d' :=
    max_le_max_right _ (Int.sub_le_sub_right (binaryExponent_mono hn hd hn' hd' h) 52)
  rcases hexponent.eq_or_lt with heq | hlt
  · have hmantissa : roundedMantissa n d ≤ roundedMantissa n' d' := by
      unfold roundedMantissa
      rw [heq]
      refine roundQuotient_mono (raise_pos hd _) (raise_pos hd' _) ?_
      unfold raise
      rw [Nat.mul_mul_mul_comm, Nat.mul_mul_mul_comm n']
      exact Nat.mul_le_mul_right _ h
    rw [roundedValue, heq]
    exact mul_le_mul_of_nonneg_right (Nat.cast_le.mpr hmantissa) (zpow_pos two_pos _).le
  · -- The larger exponent is not the least one, so the larger quotient has a full mantissa.
    have hlarge : -1022 ≤ binaryExponent n' d' := by
      unfold roundingExponent at hlt
      omega
    calc roundedValue n d
        ≤ mantissaLimit * 2 ^ roundingExponent n d :=
          mul_le_mul_of_nonneg_right (Nat.cast_le.mpr (roundedMantissa_le hn hd))
            (zpow_pos two_pos _).le
      _ = 2 ^ (roundingExponent n d + 53) := cast_mantissaLimit_mul _
      _ ≤ 2 ^ (roundingExponent n' d' + 52) := zpow_le_zpow_right₀ one_le_two (by omega)
      _ = leastFull * 2 ^ roundingExponent n' d' := (cast_leastFull_mul _).symm
      _ ≤ roundedValue n' d' :=
          mul_le_mul_of_nonneg_right (Nat.cast_le.mpr (le_roundedMantissa hn' hd' hlarge))
            (zpow_pos two_pos _).le

end Quotients

section Nearest

variable {s : Bool}

/-- A mantissa that has grown up to the limit is packed as half of it at the next exponent. -/
theorem extent?_pack {m : Nat} {e : Int} (h : (Binary64.pack s m e).isFinite = true) :
    (Scaled.ofBinary64 (Binary64.pack s m e)).extent? =
      some (((Binary64.signed s m * 2 ^ e : ℚ) : WithTop ℚ) : Extent) := by
  unfold Binary64.pack at h ⊢
  split
  · rfl
  · next hnot =>
    rw [dif_neg hnot] at h
    split
    · next hlimit =>
      have hhalf : ((leastFull : Nat) : ℚ) * 2 ^ (e + 1) = m * 2 ^ e := by
        rw [hlimit.1, cast_leastFull_mul, cast_mantissaLimit_mul]
        congr 1
        omega
      have hsigned :
          (Binary64.signed s leastFull * 2 ^ (e + 1) : ℚ) = Binary64.signed s m * 2 ^ e := by
        cases s with
        | false => exact hhalf
        | true => simpa [Binary64.signed] using congrArg Neg.neg hhalf
      rw [← hsigned]
      rfl
    · next hnot' =>
      rw [dif_neg hnot'] at h
      cases h

/-- The number that a quotient of a signed number is rounded to. -/
def signedValue (s : Bool) (n d : Nat) : ℚ := if s then -roundedValue n d else roundedValue n d

theorem extent?_nearest {n d : Nat} (hd : 0 < d)
    (h : (Binary64.nearest s n d).isFinite = true) :
    (Scaled.ofBinary64 (Binary64.nearest s n d)).extent? =
      some ((signedValue s n d : WithTop ℚ) : Extent) := by
  rcases Nat.eq_zero_or_pos n with rfl | hn
  · have hzero : Binary64.nearest s 0 d = .zero s := if_pos rfl
    rw [hzero, signedValue, roundedValue_zero hd]
    cases s <;> simp [Binary64.zero, Scaled.ofBinary64, Scaled.extent?, Binary64.signed]
  · rw [nearest_of_pos s hn] at h ⊢
    rw [extent?_pack h]
    cases s <;> simp [signedValue, roundedValue, Binary64.signed]

theorem signedValue_mono {n n' : Int} {d : Nat} (hd : 0 < d) (h : n ≤ n') :
    signedValue (decide (n < 0)) n.natAbs d ≤ signedValue (decide (n' < 0)) n'.natAbs d := by
  have hle : ∀ {a b : Nat}, a ≤ b → roundedValue a d ≤ roundedValue b d := fun hab =>
    roundedValue_mono hd hd (Nat.mul_le_mul_right d hab)
  have hpos := roundedValue_nonneg
  unfold signedValue
  rcases Int.lt_or_le n 0 with hn | hn <;> rcases Int.lt_or_le n' 0 with hn' | hn'
  · simp only [hn, hn', decide_true, if_true]
    exact neg_le_neg (hle (by omega))
  · simp only [hn, Int.not_lt.mpr hn', decide_true, decide_false, if_true]
    exact (neg_nonpos.mpr (hpos _ _)).trans (hpos _ _)
  · omega
  · simp only [Int.not_lt.mpr hn, Int.not_lt.mpr hn', decide_false]
    exact hle (by omega)

/-- Of two numbers the larger has no smaller quotient, if both can be rounded. -/
theorem ge_quotient {n n' d : Int} (h : n ≤ n') (hd : 0 < d) {x y : Binary64}
    (hx : quotient n d = .ok x) (hy : quotient n' d = .ok y) :
    (Scaled.ofBinary64 y).ge (Scaled.ofBinary64 x) = true := by
  have hextent : ∀ {k : Int} {z : Binary64}, quotient k d = .ok z →
      (Scaled.ofBinary64 z).extent? =
        some ((signedValue (decide (k < 0)) k.natAbs d.natAbs : WithTop ℚ) : Extent) := by
    intro k z hz
    have hsign : (decide (k < 0) != decide (d < 0)) = decide (k < 0) := by
      simp [Int.not_lt.mpr hd.le]
    rw [quotient, hsign] at hz
    split at hz
    · next hfinite =>
      obtain rfl := Except.ok.inj hz
      exact extent?_nearest (by omega) hfinite
    · cases hz
  refine Scaled.ge_iff.mpr ⟨_, _, hextent hy, hextent hx, ?_⟩
  rw [WithBot.coe_le_coe, WithTop.coe_le_coe]
  exact signedValue_mono (by omega) h

end Nearest

end ScriptProfiling
