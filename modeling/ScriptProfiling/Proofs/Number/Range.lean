import ScriptProfiling.Number.Basic
import Mathlib.Algebra.Order.Field.Power
import Mathlib.Data.Rat.Cast.Order
import Mathlib.Tactic.Linarith
import Mathlib.Tactic.Ring

/-!
# The range of rounded quotients

A quotient of whole numbers has a finite nearest value exactly if it lies below the middle
between the largest finite value and the power of two after it. The exponent that rounding
starts from brackets the quotient between two powers of two; the mantissa that it leaves
has 53 bits, or is one more than the largest of them.
-/
namespace ScriptProfiling

/-- The least number that is rounded to infinity. -/
def floatRange : Nat := (2 ^ 54 - 1) * 2 ^ 970

/-- A quotient that can be rounded. -/
def Quotable (n d : Int) : Prop := n.natAbs < d.natAbs * floatRange

theorem floatRange_pos : 0 < floatRange := Nat.mul_pos (by decide) (pow_pos two_pos 970)

theorem cast_floatRange : ((floatRange : Nat) : ℚ) = (2 ^ 54 - 1) * 2 ^ (970 : Int) := by
  have hpower : (2 : ℚ) ^ (970 : Int) = ((2 ^ 970 : Nat) : ℚ) := by
    rw [Nat.cast_pow, Nat.cast_ofNat, ← zpow_natCast, Nat.cast_ofNat]
  have hmantissa : ((2 ^ 54 - 1 : Nat) : ℚ) = 2 ^ 54 - 1 := by norm_num
  rw [hpower, floatRange, Nat.cast_mul, hmantissa]

theorem floatRange_bounds :
    (2 ^ (1023 : Int) : ℚ) ≤ floatRange ∧ (floatRange : ℚ) ≤ 2 ^ (1024 : Int) := by
  have hpos : (0 : ℚ) ≤ 2 ^ (970 : Int) := (zpow_pos two_pos _).le
  have hlow : (2 : ℚ) ^ (1023 : Int) = 2 ^ 53 * 2 ^ (970 : Int) := by
    rw [← zpow_natCast, ← zpow_add₀ two_ne_zero]
    rfl
  have hhigh : (2 : ℚ) ^ (1024 : Int) = 2 ^ 54 * 2 ^ (970 : Int) := by
    rw [← zpow_natCast, ← zpow_add₀ two_ne_zero]
    rfl
  rw [cast_floatRange, hlow, hhigh]
  exact ⟨mul_le_mul_of_nonneg_right (by norm_num) hpos,
    mul_le_mul_of_nonneg_right (by norm_num) hpos⟩

instance (n d : Int) : Decidable (Quotable n d) := Nat.decLt _ _

section Raise

/-- Raising two numbers against each other multiplies one of them by a power of the base, up to
a common factor. -/
theorem exists_scale_of {base : Nat} (hbase : 0 < base) (k : Int) : ∃ w : ℚ, 0 < w ∧
    (∀ d : Nat, ((d * base.pow k.toNat : Nat) : ℚ) = w * (d * base ^ k)) ∧
    ∀ n : Nat, ((n * base.pow (-k).toNat : Nat) : ℚ) = w * n := by
  have hpos : (0 : ℚ) < base := Nat.cast_pos.mpr hbase
  rcases Int.le_total 0 k with hk | hk
  · obtain ⟨j, rfl⟩ := Int.eq_ofNat_of_zero_le hk
    refine ⟨1, one_pos, fun d => ?_, fun n => ?_⟩
    · simp
    · simp
  · obtain ⟨j, hj⟩ := Int.eq_ofNat_of_zero_le (Int.neg_nonneg.mpr hk)
    obtain rfl : k = -(j : Int) := by omega
    refine ⟨base ^ j, by positivity, fun d => ?_, fun n => ?_⟩
    · have hnone : (-(j : Int)).toNat = 0 := by omega
      rw [hnone, zpow_neg, zpow_natCast, mul_left_comm, mul_inv_cancel₀ (by positivity)]
      simp
    · simp [mul_comm]

theorem exists_scale (k : Int) : ∃ w : ℚ, 0 < w ∧
    (∀ d, (raise d k : ℚ) = w * (d * 2 ^ k)) ∧ ∀ n, (raise n (-k) : ℚ) = w * n :=
  exists_scale_of two_pos k

variable {n d : Nat} {k : Int}

theorem mul_raise_le_iff (a b : Nat) :
    a * raise d k ≤ b * raise n (-k) ↔ (a * (d * 2 ^ k) : ℚ) ≤ b * n := by
  obtain ⟨w, hw, hd, hn⟩ := exists_scale k
  have hleft : ((a * raise d k : Nat) : ℚ) = w * (a * (d * 2 ^ k)) := by
    rw [Nat.cast_mul, hd]
    ring
  have hright : ((b * raise n (-k) : Nat) : ℚ) = w * (b * n) := by
    rw [Nat.cast_mul, hn]
    ring
  rw [← Nat.cast_le (α := ℚ), hleft, hright, mul_le_mul_iff_of_pos_left hw]

theorem mul_raise_lt_iff (a b : Nat) :
    b * raise n (-k) < a * raise d k ↔ (b * n : ℚ) < a * (d * 2 ^ k) := by
  rw [← Nat.not_le, mul_raise_le_iff, not_le]

theorem raise_le_iff : raise d k ≤ raise n (-k) ↔ (d * 2 ^ k : ℚ) ≤ n := by
  simpa using mul_raise_le_iff (n := n) (d := d) (k := k) 1 1

end Raise

section Exponent

variable {n d : Nat}

theorem log2_bounds (h : 0 < n) :
    (2 ^ (n.log2 : Int) : ℚ) ≤ n ∧ (n : ℚ) < 2 ^ ((n.log2 : Int) + 1) := by
  have hlow : 2 ^ n.log2 ≤ n := Nat.log2_self_le (by omega)
  have hhigh : n < 2 ^ (n.log2 + 1) := Nat.lt_log2_self
  refine ⟨?_, ?_⟩
  · rw [zpow_natCast]
    exact_mod_cast hlow
  · have hcast : ((n.log2 : Int) + 1) = ((n.log2 + 1 : Nat) : Int) := by omega
    rw [hcast, zpow_natCast]
    exact_mod_cast hhigh

/-- The exponent brackets the quotient between two powers of two. -/
theorem binaryExponent_spec (hn : 0 < n) (hd : 0 < d) :
    (d * 2 ^ binaryExponent n d : ℚ) ≤ n ∧ (n : ℚ) < d * 2 ^ (binaryExponent n d + 1) := by
  obtain ⟨hnlow, hnhigh⟩ := log2_bounds hn
  obtain ⟨hdlow, hdhigh⟩ := log2_bounds hd
  have htwo : (2 : ℚ) ≠ 0 := two_ne_zero
  have hpos : ∀ k : Int, (0 : ℚ) < 2 ^ k := fun k => zpow_pos two_pos k
  unfold binaryExponent
  dsimp only
  split
  · next h =>
    refine ⟨raise_le_iff.mp h, ?_⟩
    calc (n : ℚ) < 2 ^ ((n.log2 : Int) + 1) := hnhigh
      _ = 2 ^ (d.log2 : Int) * 2 ^ ((n.log2 : Int) - d.log2 + 1) := by
        rw [← zpow_add₀ htwo]
        congr 1
        omega
      _ ≤ d * 2 ^ ((n.log2 : Int) - d.log2 + 1) := mul_le_mul_of_nonneg_right hdlow (hpos _).le
  · next h =>
    rw [raise_le_iff, not_le] at h
    refine ⟨?_, by simpa using h⟩
    calc (d * 2 ^ ((n.log2 : Int) - d.log2 - 1) : ℚ)
        ≤ 2 ^ ((d.log2 : Int) + 1) * 2 ^ ((n.log2 : Int) - d.log2 - 1) :=
          mul_le_mul_of_nonneg_right hdhigh.le (hpos _).le
      _ = 2 ^ (n.log2 : Int) := by
        rw [← zpow_add₀ htwo]
        congr 1
        omega
      _ ≤ n := hnlow

end Exponent

section Mantissa

variable {n d : Nat}

theorem div_le_roundQuotient : n / d ≤ roundQuotient n d := by
  unfold roundQuotient
  dsimp only
  split
  · omega
  · split
    · omega
    · split <;> omega

theorem roundQuotient_le : roundQuotient n d ≤ n / d + 1 := by
  unfold roundQuotient
  dsimp only
  split
  · omega
  · split
    · omega
    · split <;> omega

/-- A quotient is rounded to a number or to one before it if it lies below the middle to the
next number. The middle itself goes to the even one of the two. -/
theorem roundQuotient_le_iff {m : Nat} (hd : 0 < d) :
    roundQuotient n d ≤ m ↔ 2 * n < (2 * m + 1) * d ∨ 2 * n = (2 * m + 1) * d ∧ m % 2 = 0 := by
  have hsplit : d * (n / d) + n % d = n := Nat.div_add_mod n d
  have hrest : n % d < d := Nat.mod_lt n hd
  rcases Nat.lt_trichotomy (n / d) m with hlt | heq | hgt
  · have hsmall : roundQuotient n d ≤ m := by
      have hle : roundQuotient n d ≤ n / d + 1 := roundQuotient_le
      omega
    have hbound : d * (n / d + 1) ≤ d * m := Nat.mul_le_mul_left d hlt
    refine iff_of_true hsmall (Or.inl ?_)
    nlinarith
  · have hvalue : 2 * n = 2 * (m * d) + 2 * (n % d) := by
      rw [← heq, Nat.mul_comm (n / d) d]
      omega
    have hhalf : (2 * m + 1) * d = 2 * (m * d) + d := by ring
    rw [hvalue, hhalf]
    unfold roundQuotient
    dsimp only
    rw [heq]
    split
    · omega
    · split
      · omega
      · split <;> omega
  · have hlarge : ¬ roundQuotient n d ≤ m := by
      have hle : n / d ≤ roundQuotient n d := div_le_roundQuotient
      omega
    have hbound : d * (m + 1) ≤ d * (n / d) := Nat.mul_le_mul_left d hgt
    have hwhole : d * (n / d) ≤ n := Nat.mul_div_le n d
    have hpast : (2 * m + 1) * d < 2 * n := by nlinarith
    exact iff_of_false hlarge (by omega)

/-- To stay below an even number a quotient must be nearer to the number before: the tie
between them goes to the even one. -/
theorem roundQuotient_lt_iff {m : Nat} (hd : 0 < d) (heven : m % 2 = 1) :
    roundQuotient n d < m + 1 ↔ 2 * n < (2 * m + 1) * d := by
  rw [Nat.lt_succ_iff, roundQuotient_le_iff hd]
  omega

end Mantissa

theorem roundQuotient_le_of_lt {n d m : Nat} (h : n < m * d) : roundQuotient n d ≤ m := by
  have hfloor : n / d < m := Nat.div_lt_of_lt_mul (by rwa [Nat.mul_comm d m])
  have hle : roundQuotient n d ≤ n / d + 1 := roundQuotient_le
  omega

theorem le_roundQuotient_of_le {n d m : Nat} (hd : 0 < d) (h : m * d ≤ n) :
    m ≤ roundQuotient n d :=
  ((Nat.le_div_iff_mul_le hd).mpr h).trans div_le_roundQuotient

section Rounded

variable {n d m : Nat} {e : Int}

theorem roundQuotient_raise_le (h : (n : ℚ) < m * (d * 2 ^ e)) :
    roundQuotient (raise n (-e)) (raise d e) ≤ m := by
  refine roundQuotient_le_of_lt ?_
  have hlt := (mul_raise_lt_iff (n := n) (d := d) (k := e) m 1).mpr (by rwa [Nat.cast_one, one_mul])
  rwa [one_mul] at hlt

theorem le_roundQuotient_raise (hd : 0 < d) (h : (m * (d * 2 ^ e) : ℚ) ≤ n) :
    m ≤ roundQuotient (raise n (-e)) (raise d e) := by
  refine le_roundQuotient_of_le (raise_pos hd _) ?_
  have hle := (mul_raise_le_iff (n := n) (d := d) (k := e) m 1).mpr (by rwa [Nat.cast_one, one_mul])
  rwa [one_mul] at hle

theorem cast_leastFull_mul (e : Int) : ((leastFull : Nat) : ℚ) * 2 ^ e = 2 ^ (e + 52) := by
  have hvalue : ((leastFull : Nat) : ℚ) = 2 ^ (52 : Int) := by norm_num [leastFull]
  rw [hvalue, ← zpow_add₀ two_ne_zero, Int.add_comm]

theorem cast_mantissaLimit_mul (e : Int) : ((mantissaLimit : Nat) : ℚ) * 2 ^ e = 2 ^ (e + 53) := by
  have hvalue : ((mantissaLimit : Nat) : ℚ) = 2 ^ (53 : Int) := by norm_num [mantissaLimit]
  rw [hvalue, ← zpow_add₀ two_ne_zero, Int.add_comm]

/-- The exponent at which a quotient is rounded. -/
def roundingExponent (n d : Nat) : Int := max (binaryExponent n d - 52) (-1074)

/-- The whole number that a quotient is rounded to at its exponent. -/
def roundedMantissa (n d : Nat) : Nat :=
  roundQuotient (raise n (-roundingExponent n d)) (raise d (roundingExponent n d))

theorem nearest_of_pos (s : Bool) (hn : 0 < n) :
    Binary64.nearest s n d = .pack s (roundedMantissa n d) (roundingExponent n d) :=
  if_neg (by omega)

theorem roundedMantissa_le (hn : 0 < n) (hd : 0 < d) : roundedMantissa n d ≤ mantissaLimit := by
  obtain ⟨-, hhigh⟩ := binaryExponent_spec hn hd
  refine roundQuotient_raise_le (hhigh.trans_le ?_)
  rw [mul_left_comm, cast_mantissaLimit_mul]
  refine mul_le_mul_of_nonneg_left ?_ (Nat.cast_nonneg d)
  exact zpow_le_zpow_right₀ one_le_two (by unfold roundingExponent; omega)

theorem le_roundedMantissa (hn : 0 < n) (hd : 0 < d) (h : -1022 ≤ binaryExponent n d) :
    leastFull ≤ roundedMantissa n d := by
  obtain ⟨hlow, -⟩ := binaryExponent_spec hn hd
  have hexponent : roundingExponent n d + 52 = binaryExponent n d := by
    unfold roundingExponent
    omega
  refine le_roundQuotient_raise hd ?_
  rwa [mul_left_comm, cast_leastFull_mul, hexponent]

end Rounded

namespace Binary64

theorem isFinite_pack {s : Bool} {m : Nat} {e : Int} :
    (pack s m e).isFinite = true ↔
      Canonical m e ∨ m = mantissaLimit ∧ Canonical leastFull (e + 1) := by
  unfold pack
  split
  · next h => exact iff_of_true rfl (Or.inl h)
  · next h =>
    split
    · next hnext => exact iff_of_true rfl (Or.inr hnext)
    · next hnext => exact iff_of_false Bool.false_ne_true (not_or.mpr ⟨h, hnext⟩)

/-- A mantissa of 53 bits, or the number after them, decides at the largest exponent only. -/
theorem isFinite_pack_full {s : Bool} {m : Nat} {e : Int} (hlow : leastFull ≤ m)
    (hhigh : m ≤ mantissaLimit) (he : -1074 ≤ e) :
    (pack s m e).isFinite = true ↔ e ≤ 970 ∨ e = 971 ∧ m < mantissaLimit := by
  rw [isFinite_pack]
  unfold Canonical mantissaLimit leastFull at *
  omega

theorem isFinite_pack_small {s : Bool} {m : Nat} (h : m ≤ leastFull) :
    (pack s m (-1074)).isFinite = true := by
  rw [isFinite_pack]
  unfold Canonical mantissaLimit leastFull at *
  omega

end Binary64

section Nearest

variable {n d : Nat} (s : Bool)

theorem isFinite_nearest_small (hn : 0 < n) (hd : 0 < d) (hsmall : binaryExponent n d < -1022) :
    (Binary64.nearest s n d).isFinite = true := by
  obtain ⟨-, hhigh⟩ := binaryExponent_spec hn hd
  have hexponent : roundingExponent n d = -1074 := by
    unfold roundingExponent
    omega
  have hmantissa : roundedMantissa n d ≤ leastFull := by
    refine roundQuotient_raise_le (hhigh.trans_le ?_)
    rw [mul_left_comm, cast_leastFull_mul]
    refine mul_le_mul_of_nonneg_left ?_ (Nat.cast_nonneg d)
    exact zpow_le_zpow_right₀ one_le_two (by omega)
  rw [nearest_of_pos s hn, hexponent]
  exact Binary64.isFinite_pack_small hmantissa

/-- At the largest exponent the mantissa does not reach the limit below the middle. -/
theorem roundQuotient_lt_limit (hd : 0 < d) :
    roundQuotient (raise n (-(1023 - 52))) (raise d (1023 - 52)) < mantissaLimit ↔
      n < d * floatRange := by
  have hlimit : mantissaLimit = (mantissaLimit - 1) + 1 := by decide
  have hmiddle : 2 * (mantissaLimit - 1) + 1 = 2 ^ 54 - 1 := by decide
  have hrange : (((2 ^ 54 - 1 : Nat) : ℚ) * (d * 2 ^ ((1023 - 52 : Int)))) =
      ((2 * (d * floatRange) : Nat) : ℚ) := by
    have hpower : (2 : ℚ) ^ (1023 - 52 : Int) = 2 * 2 ^ (970 : Int) := by
      rw [← zpow_one_add₀ two_ne_zero]
      rfl
    have hodd : ((2 ^ 54 - 1 : Nat) : ℚ) = 2 ^ 54 - 1 := by norm_num
    rw [hpower, Nat.cast_mul, Nat.cast_mul, cast_floatRange, hodd, Nat.cast_ofNat]
    ring
  rw [hlimit, roundQuotient_lt_iff (raise_pos hd _) (by decide), hmiddle, mul_raise_lt_iff, hrange,
    ← Nat.cast_mul, Nat.cast_lt, Nat.mul_lt_mul_left two_pos]

/-- With a mantissa of 53 bits only the largest exponent leaves a choice. -/
theorem isFinite_nearest_large (hn : 0 < n) (hd : 0 < d) (hlarge : -1022 ≤ binaryExponent n d) :
    (Binary64.nearest s n d).isFinite = true ↔
      binaryExponent n d ≤ 1022 ∨ binaryExponent n d = 1023 ∧ n < d * floatRange := by
  have hexponent : roundingExponent n d = binaryExponent n d - 52 := by
    unfold roundingExponent
    omega
  rw [nearest_of_pos s hn, Binary64.isFinite_pack_full (le_roundedMantissa hn hd hlarge)
    (roundedMantissa_le hn hd) (by omega), hexponent]
  refine or_congr (by omega) ?_
  have htop : binaryExponent n d = 1023 → (roundedMantissa n d < mantissaLimit ↔
      n < d * floatRange) := by
    intro h
    rw [roundedMantissa, hexponent, h]
    exact roundQuotient_lt_limit hd
  constructor
  · rintro ⟨hk, hm⟩
    exact ⟨by omega, (htop (by omega)).mp hm⟩
  · rintro ⟨hk, hm⟩
    exact ⟨by omega, (htop hk).mpr hm⟩

theorem lt_range_of_lt {k : Int} (h : (n : ℚ) < d * 2 ^ k) (hk : k ≤ 1023) :
    n < d * floatRange := by
  have hpower : (2 : ℚ) ^ k ≤ floatRange :=
    (zpow_le_zpow_right₀ one_le_two hk).trans floatRange_bounds.1
  have hlt : (n : ℚ) < d * floatRange :=
    h.trans_le (mul_le_mul_of_nonneg_left hpower (Nat.cast_nonneg d))
  exact_mod_cast hlt

theorem not_lt_range_of_le {k : Int} (h : (d * 2 ^ k : ℚ) ≤ n) (hk : 1024 ≤ k) :
    ¬ n < d * floatRange := by
  have hpower : (floatRange : ℚ) ≤ 2 ^ k :=
    floatRange_bounds.2.trans (zpow_le_zpow_right₀ one_le_two hk)
  have hle : (d * floatRange : ℚ) ≤ n :=
    (mul_le_mul_of_nonneg_left hpower (Nat.cast_nonneg d)).trans h
  rw [Nat.not_lt]
  exact_mod_cast hle

/-- The nearest value is finite below the middle between the largest finite value and the
power of two after it. -/
theorem isFinite_nearest_iff (hd : 0 < d) :
    (Binary64.nearest s n d).isFinite = true ↔ n < d * floatRange := by
  rcases Nat.eq_zero_or_pos n with rfl | hn
  · have hzero : Binary64.nearest s 0 d = .zero s := if_pos rfl
    rw [hzero]
    exact iff_of_true rfl (Nat.mul_pos hd floatRange_pos)
  · obtain ⟨hlow, hhigh⟩ := binaryExponent_spec hn hd
    rcases Int.lt_or_le (binaryExponent n d) (-1022) with hsmall | hlarge
    · refine iff_of_true (isFinite_nearest_small s hn hd hsmall) ?_
      exact lt_range_of_lt hhigh (by omega)
    · rw [isFinite_nearest_large s hn hd hlarge]
      rcases Int.lt_trichotomy (binaryExponent n d) 1023 with hk | hk | hk
      · exact iff_of_true (Or.inl (by omega)) (lt_range_of_lt hhigh (by omega))
      · simp [hk]
      · refine iff_of_false (by omega) (not_lt_range_of_le hlow (by omega))

end Nearest

theorem isOk_quotient {n d : Int} (hd : d ≠ 0) : (quotient n d).isOk = true ↔ Quotable n d := by
  have hfinite := isFinite_nearest_iff (decide (n < 0) != decide (d < 0)) (n := n.natAbs)
    (d := d.natAbs) (by omega)
  rw [Quotable, ← hfinite, quotient]
  split
  · next h => exact iff_of_true rfl h
  · next h => exact iff_of_false Bool.false_ne_true h

end ScriptProfiling
