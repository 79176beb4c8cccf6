import ScriptProfiling.Proofs.Number.Monotone
import ScriptProfiling.Proofs.Number.Numeral

/-!
# The shortest decimal reads back

What lies nearer to a floating-point number than half the way to its neighbours is rounded to it.
Seventeen digits come so near: the grid of the last of them is finer than the numbers of 53 bits. So
the search for the shortest decimal ends with one, and each that it ends with reads back as the
number that was written.
-/
namespace ScriptProfiling

section Ratio

variable {n d n' d' : Nat} (s : Bool)

theorem nearest_congr (hd : 0 < d) (hd' : 0 < d') (h : n * d' = n' * d) :
    Binary64.nearest s n d = Binary64.nearest s n' d' := by
  rcases Nat.eq_zero_or_pos n with rfl | hn
  · have hzero : n' = 0 := by
      rw [Nat.zero_mul] at h
      exact (Nat.mul_eq_zero.mp h.symm).resolve_right hd.ne'
    rw [hzero]
    rfl
  have hn' : 0 < n' := Nat.pos_of_mul_pos_right (h ▸ Nat.mul_pos hn hd' : 0 < n' * d)
  have hexponent : roundingExponent n d = roundingExponent n' d' := by
    have hle := binaryExponent_mono hn hd hn' hd' h.le
    have hge := binaryExponent_mono hn' hd' hn hd h.ge
    rw [roundingExponent, roundingExponent, hle.antisymm hge]
  have hscaled : ∀ {a b a' b' : Nat} {k : Int}, a * b' = a' * b →
      raise a (-k) * raise b' k = raise a' (-k) * raise b k := by
    intro a b a' b' k hab
    unfold raise
    rw [Nat.mul_mul_mul_comm, hab, Nat.mul_mul_mul_comm]
  have hmantissa : roundedMantissa n d = roundedMantissa n' d' := by
    unfold roundedMantissa
    rw [hexponent]
    exact (roundQuotient_mono (raise_pos hd _) (raise_pos hd' _) (hscaled h).le).antisymm
      (roundQuotient_mono (raise_pos hd' _) (raise_pos hd _) (hscaled h).ge)
  rw [nearest_of_pos s hn, nearest_of_pos s hn', hexponent, hmantissa]

end Ratio

section Near

variable {n d m : Nat}

theorem roundQuotient_eq_of (hd : 0 < d) (hlow : 2 * m * d < 2 * n + d)
    (hhigh : 2 * n < (2 * m + 1) * d) : roundQuotient n d = m := by
  apply le_antisymm
  · exact (roundQuotient_le_iff hd).mpr (Or.inl hhigh)
  · by_contra hlt
    obtain ⟨j, rfl⟩ : ∃ j, m = j + 1 := ⟨m - 1, by omega⟩
    have hle : roundQuotient n d ≤ j := by omega
    have hmiddle : 2 * (j + 1) * d = (2 * j + 1) * d + d := by ring
    rw [roundQuotient_le_iff hd] at hle
    omega

theorem roundQuotient_bounds (hd : 0 < d) :
    2 * n ≤ (2 * roundQuotient n d + 1) * d ∧ 2 * roundQuotient n d * d ≤ 2 * n + d := by
  have hle := (roundQuotient_le_iff (n := n) hd).mp (Nat.le_refl _)
  refine ⟨by omega, ?_⟩
  cases hm : roundQuotient n d with
  | zero => omega
  | succ j =>
    have hnot : ¬ roundQuotient n d ≤ j := by omega
    have hmiddle : 2 * (j + 1) * d = (2 * j + 1) * d + d := by ring
    rw [roundQuotient_le_iff hd] at hnot
    omega

variable {e : Int} {x : ℚ}

/-- What lies nearer to a multiple of a power of two than half the way to the next ones is rounded
to it. -/
theorem roundQuotient_raise_eq {k : Int} (hd : 0 < d) (hx : (n : ℚ) = d * x)
    (hlow : (m - 1 / 2 : ℚ) * 2 ^ k < x) (hhigh : x < (m + 1 / 2 : ℚ) * 2 ^ k) :
    roundQuotient (raise n (-k)) (raise d k) = m := by
  obtain ⟨w, hw, hscaleDivisor, hscale⟩ := exists_scale k
  have hpos : 0 < w * d := mul_pos hw (Nat.cast_pos.mpr hd)
  apply roundQuotient_eq_of (raise_pos hd k)
  · have hscaled := mul_lt_mul_of_pos_left hlow hpos
    rw [← Nat.cast_lt (α := ℚ)]
    push_cast
    rw [hscaleDivisor, hscale, hx]
    linarith
  · have hscaled := mul_lt_mul_of_pos_left hhigh hpos
    rw [← Nat.cast_lt (α := ℚ)]
    push_cast
    rw [hscaleDivisor, hscale, hx]
    linarith

theorem binaryExponent_bounds (hn : 0 < n) (hd : 0 < d) (hx : (n : ℚ) = d * x) :
    2 ^ binaryExponent n d ≤ x ∧ x < 2 ^ (binaryExponent n d + 1) := by
  have hdpos : (0 : ℚ) < d := Nat.cast_pos.mpr hd
  obtain ⟨hlow, hhigh⟩ := binaryExponent_spec hn hd
  rw [hx] at hlow hhigh
  exact ⟨le_of_mul_le_mul_left hlow hdpos, lt_of_mul_lt_mul_left hhigh hdpos.le⟩

theorem cast_mantissaLimit : ((mantissaLimit : Nat) : ℚ) = 2 * leastFull := by norm_num

section Exponent

variable (hn : 0 < n) (hd : 0 < d) (hx : (n : ℚ) = d * x) (hcanonical : Canonical m e)

include hn hd hx hcanonical

theorem roundingExponent_le (hhigh : x < (m + 1 / 2 : ℚ) * 2 ^ e) : roundingExponent n d ≤ e := by
  have hpower : (0 : ℚ) < 2 ^ e := zpow_pos two_pos e
  have hlimit : (m : ℚ) + 1 ≤ mantissaLimit := by exact_mod_cast hcanonical.1
  have hbound : x < 2 ^ (e + 53) := by
    rw [← cast_mantissaLimit_mul]
    nlinarith
  have hlt : binaryExponent n d < e + 53 :=
    (zpow_lt_zpow_iff_right₀ one_lt_two).mp ((binaryExponent_bounds hn hd hx).1.trans_lt hbound)
  have hleast := hcanonical.2.1
  unfold roundingExponent
  omega

/-- Only what lies below a power of two is rounded at a smaller exponent. -/
theorem eq_leastFull_of_lt (hlow : (m - 1 / 2 : ℚ) * 2 ^ e < x) (hk : roundingExponent n d < e) :
    m = leastFull ∧ x < leastFull * 2 ^ e := by
  have hpower : (0 : ℚ) < 2 ^ e := zpow_pos two_pos e
  have hfull : leastFull ≤ m := by
    have hleast : -1074 ≤ roundingExponent n d := le_max_right _ _
    have hcases := hcanonical.2.2.2
    omega
  have hbound : x < leastFull * 2 ^ e := by
    have hexponent : binaryExponent n d + 1 ≤ e + 52 := by
      unfold roundingExponent at hk
      omega
    rw [cast_leastFull_mul]
    exact (binaryExponent_bounds hn hd hx).2.trans_le (zpow_le_zpow_right₀ one_le_two hexponent)
  refine ⟨?_, hbound⟩
  by_contra hne
  have hnext : (leastFull : ℚ) + 1 ≤ m := by exact_mod_cast (by omega : leastFull + 1 ≤ m)
  nlinarith

end Exponent

/-- What is close enough below a power of two is rounded up to it, at a smaller exponent. -/
theorem rounded_below_leastFull (hn : 0 < n) (hd : 0 < d) (hx : (n : ℚ) = d * x)
    (hclose : (leastFull - 1 / 4 : ℚ) * 2 ^ e < x) (hbound : x < leastFull * 2 ^ e)
    (hk : roundingExponent n d < e) :
    roundingExponent n d = e - 1 ∧ roundedMantissa n d = mantissaLimit := by
  have hhalf : (2 : ℚ) ^ e = 2 * 2 ^ (e - 1) := by
    rw [← zpow_one_add₀ two_ne_zero]
    congr 1
    omega
  have hstep : (0 : ℚ) < 2 ^ (e - 1) := zpow_pos two_pos (e - 1)
  have hfiner : ∀ c : ℚ, 1 ≤ c → c * 2 ^ (e - 1) ≤ (c - 1 / 4) * (2 * 2 ^ (e - 1)) ∧
      (2 * c - 1 / 2) * 2 ^ (e - 1) = (c - 1 / 4) * (2 * 2 ^ (e - 1)) ∧
      c * (2 * 2 ^ (e - 1)) < (2 * c + 1 / 2) * 2 ^ (e - 1) := by
    intro c hc
    exact ⟨by nlinarith, by ring, by nlinarith⟩
  obtain ⟨hleast, hlast, hlimit⟩ := hfiner leastFull (by norm_num)
  rw [hhalf] at hclose hbound
  have hexponent : roundingExponent n d = e - 1 := by
    have hlarge : (2 : ℚ) ^ (e + 51) ≤ x := by
      have hsplit : (2 : ℚ) ^ (e + 51) = leastFull * 2 ^ (e - 1) := by
        rw [cast_leastFull_mul]
        congr 1
        omega
      rw [hsplit]
      exact hleast.trans hclose.le
    have hlt : e + 51 < binaryExponent n d + 1 :=
      (zpow_lt_zpow_iff_right₀ one_lt_two).mp
        (hlarge.trans_lt (binaryExponent_bounds hn hd hx).2)
    unfold roundingExponent at hk ⊢
    omega
  refine ⟨hexponent, ?_⟩
  rw [roundedMantissa, hexponent]
  refine roundQuotient_raise_eq hd hx ?_ ?_
  · rw [cast_mantissaLimit, hlast]
    exact hclose
  · rw [cast_mantissaLimit]
    exact hbound.trans hlimit

theorem pack_mantissaLimit (s : Bool) (hcanonical : Canonical leastFull e) :
    Binary64.pack s mantissaLimit (e - 1) = .finite s leastFull e hcanonical := by
  have hnot : ¬ Canonical mantissaLimit (e - 1) := fun h => absurd h.1 (Nat.lt_irrefl _)
  have hsame : e - 1 + 1 = e := by omega
  rw [Binary64.pack, dif_neg hnot, dif_pos ⟨rfl, hsame.symm ▸ hcanonical⟩]
  simp only [hsame]

/-- What lies nearer to a floating-point number than half the way to its neighbours is rounded to
it. Below a power of two the numbers are twice as close. -/
theorem nearest_eq_finite (s : Bool) (hd : 0 < d) (hx : (n : ℚ) = d * x)
    (hcanonical : Canonical m e)
    (hm : 0 < m) (hlow : (m - 1 / 2 : ℚ) * 2 ^ e < x) (hhigh : x < (m + 1 / 2 : ℚ) * 2 ^ e)
    (hbelow : m = leastFull → (m - 1 / 4 : ℚ) * 2 ^ e < x) :
    Binary64.nearest s n d = .finite s m e hcanonical := by
  have hn : 0 < n := by
    have hpower : (0 : ℚ) < 2 ^ e := zpow_pos two_pos e
    have hmcast : (1 : ℚ) ≤ m := by exact_mod_cast hm
    have hxpos : 0 < x := by nlinarith
    have hcast : (0 : ℚ) < n := hx ▸ mul_pos (Nat.cast_pos.mpr hd) hxpos
    exact_mod_cast hcast
  rw [nearest_of_pos s hn]
  rcases (roundingExponent_le hn hd hx hcanonical hhigh).eq_or_lt with hk | hk
  · have hmantissa : roundedMantissa n d = m := by
      rw [roundedMantissa, hk]
      exact roundQuotient_raise_eq hd hx hlow hhigh
    rw [hmantissa, hk, Binary64.pack, dif_pos hcanonical]
  · obtain ⟨rfl, hbound⟩ := eq_leastFull_of_lt hn hd hx hcanonical hlow hk
    obtain ⟨hexponent, hmantissa⟩ := rounded_below_leastFull hn hd hx (hbelow rfl) hbound hk
    rw [hexponent, hmantissa]
    exact pack_mantissaLimit s hcanonical

end Near

section Decimals

theorem exists_scaleTen (k : Int) : ∃ w : ℚ, 0 < w ∧
    (∀ d, (raiseTen d k : ℚ) = w * (d * 10 ^ k)) ∧ ∀ n, (raiseTen n (-k) : ℚ) = w * n :=
  exists_scale_of (by decide : 0 < 10) k

theorem raiseTen_pos {n : Nat} (h : 0 < n) (k : Int) : 0 < raiseTen n k :=
  Nat.mul_pos h (Nat.pow_pos (by decide))

theorem decimalLength_bounds {n : Nat} (h : 0 < n) :
    10 ^ (decimalLength n - 1) ≤ n ∧ n < 10 ^ decimalLength n := by
  have hpos : 0 < decimalLength n := List.length_pos_iff.mpr Nat.toDigits_ne_nil
  constructor
  · rcases Nat.eq_zero_or_pos (decimalLength n - 1) with hone | hmore
    · rw [hone]
      exact h
    · refine Nat.le_of_not_lt fun hlt => ?_
      have hshort : decimalLength n ≤ decimalLength n - 1 := (length_numeral_le_iff hmore).mpr hlt
      omega
  · exact (length_numeral_le_iff hpos).mp (Nat.le_refl _)

theorem decimalExponent_le {n d : Nat} (hn : 0 < n) (hd : 0 < d) {x : ℚ} (hx : (n : ℚ) = d * x) :
    10 ^ decimalExponent n d ≤ x := by
  have hdpos : (0 : ℚ) < d := Nat.cast_pos.mpr hd
  refine le_of_mul_le_mul_left ?_ hdpos
  rw [← hx, decimalExponent]
  split
  · next hle =>
    have hquotient : 0 < n / d := Nat.div_pos hle hd
    have hlow := (decimalLength_bounds hquotient).1
    have hpos : 0 < decimalLength (n / d) := List.length_pos_iff.mpr Nat.toDigits_ne_nil
    have hcast : (decimalLength (n / d) : Int) - 1 = ((decimalLength (n / d) - 1 : Nat) : Int) := by
      omega
    have hmul : d * 10 ^ (decimalLength (n / d) - 1) ≤ n :=
      (Nat.mul_le_mul_left d hlow).trans (Nat.mul_div_le n d)
    rw [hcast, zpow_natCast]
    exact_mod_cast hmul
  · next hlt =>
    have hquotient : 0 < (d - 1) / n := Nat.div_pos (by omega) hn
    have hhigh := (decimalLength_bounds hquotient).2
    have hmul : d ≤ n * 10 ^ decimalLength ((d - 1) / n) := by
      have hless : d - 1 < n * 10 ^ decimalLength ((d - 1) / n) :=
        Nat.mul_comm n _ ▸ (Nat.div_lt_iff_lt_mul hn).mp hhigh
      omega
    rw [zpow_neg, zpow_natCast, ← div_eq_mul_inv, div_le_iff₀ (by positivity)]
    exact_mod_cast hmul

namespace Decimal

/-- The number that a decimal writes. -/
def value (x : Decimal) : ℚ := x.digits * 10 ^ x.exponent

theorem raiseTen_eq_mul_value (x : Decimal) :
    (raiseTen x.digits x.exponent : ℚ) = (raiseTen 1 (-x.exponent) : Nat) * x.value := by
  obtain ⟨w, -, hdigits, hone⟩ := exists_scaleTen x.exponent
  rw [hdigits, hone, value]
  ring

theorem value_bounds (x : Decimal) (h : 0 < x.digits) :
    10 ^ (decimalLength x.digits + x.exponent - 1) ≤ x.value ∧
      x.value < 10 ^ (decimalLength x.digits + x.exponent) := by
  have hpower : (0 : ℚ) < 10 ^ x.exponent := zpow_pos (by norm_num) _
  have hpos : 0 < decimalLength x.digits := List.length_pos_iff.mpr Nat.toDigits_ne_nil
  obtain ⟨hlow, hhigh⟩ := decimalLength_bounds h
  have hsplit : (decimalLength x.digits : Int) + x.exponent - 1 =
      ((decimalLength x.digits - 1 : Nat) : Int) + x.exponent := by omega
  constructor
  · rw [hsplit, zpow_add₀ (by norm_num), zpow_natCast]
    refine mul_le_mul_of_nonneg_right ?_ hpower.le
    exact_mod_cast hlow
  · rw [zpow_add₀ (by norm_num), zpow_natCast]
    refine mul_lt_mul_of_pos_right ?_ hpower
    exact_mod_cast hhigh

theorem toBinary64_congr {x y : Decimal} (h : x.value = y.value) (s : Bool) :
    x.toBinary64 s = y.toBinary64 s := by
  refine nearest_congr s (raiseTen_pos one_pos _) (raiseTen_pos one_pos _) ?_
  rw [← Nat.cast_inj (R := ℚ), Nat.cast_mul, Nat.cast_mul, raiseTen_eq_mul_value,
    raiseTen_eq_mul_value, h]
  ring

theorem value_stripZeros (fuel m : Nat) (e : Int) :
    (stripZeros fuel m e).value = (Decimal.mk m e).value := by
  induction fuel generalizing m e with
  | zero => rfl
  | succ fuel ih =>
    rw [stripZeros]
    split
    · next hzero =>
      have hdigits : ((m / 10 : Nat) : ℚ) * 10 = m := by
        exact_mod_cast Nat.div_mul_cancel (Nat.dvd_of_mod_eq_zero hzero.1)
      rw [ih, value, value, zpow_add_one₀ (by norm_num), ← hdigits]
      ring
    · rfl

variable {target : Binary64} {n d : Nat} {q : Int} {found : Decimal}

/-- What the search finds on one grid reads back. -/
theorem toBinary64_of_onGrid? (h : onGrid? target n d q = some found) :
    found.toBinary64 false = target := by
  have hstrip : ∀ {m : Nat}, (Decimal.mk m q).toBinary64 false = target →
      (stripZeros 20 m q).toBinary64 false = target := fun hm =>
    (toBinary64_congr (value_stripZeros 20 _ q) false).trans hm
  unfold onGrid? at h
  dsimp only at h
  split at h
  · next hnear => exact Option.some.inj h ▸ hstrip hnear
  · split at h
    · next hlow => exact Option.some.inj h ▸ hstrip hlow
    · split at h
      · next hhigh => exact Option.some.inj h ▸ hstrip hhigh
      · cases h

variable {m : Nat} {e : Int}

/-- On a grid of seventeen digits the nearest decimal reads back: the grid is finer than the
numbers of 53 bits. -/
theorem onGrid?_isSome (hcanonical : Canonical m e) (hm : 0 < m) (hd : 0 < d)
    (hx : (n : ℚ) = d * (m * 2 ^ e)) (hq : (10 : ℚ) ^ q * 10 ^ 16 ≤ m * 2 ^ e) :
    (onGrid? (.finite false m e hcanonical) n d q).isSome = true := by
  obtain ⟨w, hw, hdivisor, hdividend⟩ := exists_scaleTen q
  have hscale : 0 < w * d := mul_pos hw (Nat.cast_pos.mpr hd)
  have hgrid : (0 : ℚ) < 10 ^ q := zpow_pos (by norm_num) q
  have hpower : (0 : ℚ) < 2 ^ e := zpow_pos two_pos e
  -- The nearest point is at most half a step of the grid away.
  obtain ⟨habove, hbelow⟩ : m * 2 ^ e ≤ (roundQuotient (raiseTen n (-q)) (raiseTen d q) + 1 / 2) *
      (10 : ℚ) ^ q ∧ (roundQuotient (raiseTen n (-q)) (raiseTen d q) - 1 / 2) * (10 : ℚ) ^ q ≤
        m * 2 ^ e := by
    obtain ⟨hhigh, hlow⟩ := roundQuotient_bounds (n := raiseTen n (-q)) (raiseTen_pos hd q)
    generalize roundQuotient (raiseTen n (-q)) (raiseTen d q) = near at *
    rw [← Nat.cast_le (α := ℚ)] at hhigh hlow
    push_cast at hhigh hlow
    rw [hdivisor, hdividend, hx] at hhigh hlow
    constructor
    · refine le_of_mul_le_mul_left ?_ hscale
      linarith
    · refine le_of_mul_le_mul_left ?_ hscale
      linarith
  generalize hnear : roundQuotient (raiseTen n (-q)) (raiseTen d q) = near at *
  -- A step is less than a unit of the mantissa, and less than half of the least full one.
  have hstep : (10 : ℚ) ^ q < 2 ^ e := by
    have hlimit : m < 10 ^ 16 := hcanonical.1.trans (by decide)
    have hcast : (m : ℚ) < 10 ^ 16 := by exact_mod_cast hlimit
    have hless := mul_lt_mul_of_pos_right hcast hpower
    linarith
  have hhalf : m = leastFull → 2 * (10 : ℚ) ^ q < 2 ^ e := by
    rintro rfl
    have hcast : 2 * (leastFull : ℚ) < 10 ^ 16 := by norm_num
    have hless := mul_lt_mul_of_pos_right hcast hpower
    linarith
  have hreads : (Decimal.mk near q).toBinary64 false = .finite false m e hcanonical := by
    refine nearest_eq_finite false (raiseTen_pos one_pos _) (raiseTen_eq_mul_value ⟨near, q⟩)
      hcanonical hm ?_ ?_ ?_
    · rw [value]
      linarith
    · rw [value]
      linarith
    · intro hfull
      have hhalf := hhalf hfull
      rw [value]
      linarith
  simp [onGrid?, hnear, hreads]

/-- The search for the shortest decimal ends with one that reads back. -/
theorem toBinary64_shortest (hcanonical : Canonical m e) (hm : 0 < m) :
    (shortest (.finite false m e hcanonical) (raise m e) (raise 1 (-e))).toBinary64 false =
      .finite false m e hcanonical := by
  have hd : 0 < raise 1 (-e) := raise_pos one_pos (-e)
  have hx : (raise m e : ℚ) = (raise 1 (-e) : Nat) * (m * 2 ^ e) := by
    obtain ⟨w, -, hmantissa, hone⟩ := exists_scale e
    rw [hmantissa, hone]
    ring
  have htop := decimalExponent_le (raise_pos hm e) hd hx
  generalize raise m e = n at *
  generalize raise 1 (-e) = d at *
  unfold shortest
  dsimp only
  cases hfound : ((List.range 17).map fun (count : Nat) =>
      decimalExponent n d - (count : Int)).findSome?
        (onGrid? (.finite false m e hcanonical) n d) with
  | some found =>
    obtain ⟨q, -, hq⟩ := List.exists_of_findSome?_eq_some hfound
    exact toBinary64_of_onGrid? hq
  | none =>
    have hlast : decimalExponent n d - (16 : Nat) ∈
        (List.range 17).map fun (count : Nat) => decimalExponent n d - (count : Int) :=
      List.mem_map_of_mem (f := fun (count : Nat) => decimalExponent n d - (count : Int))
        (List.mem_range.mpr (by decide))
    have hfine : (10 : ℚ) ^ (decimalExponent n d - (16 : Nat)) * 10 ^ 16 ≤ m * 2 ^ e := by
      rw [← zpow_natCast, ← zpow_add₀ (by norm_num)]
      simpa using htop
    have hsome := onGrid?_isSome hcanonical hm hd hx hfine
    rw [List.findSome?_eq_none_iff.mp hfound _ hlast] at hsome
    cases hsome

end Decimal

end Decimals

section Reading

variable {n d m : Nat} {e : Int} {hcanonical : Canonical m e}

theorem nearest_of_finite (h : Binary64.nearest false n d = .finite false m e hcanonical)
    (s : Bool) :
    Binary64.nearest s n d = .finite s m e hcanonical := by
  unfold Binary64.nearest Binary64.pack Binary64.zero at *
  dsimp only at *
  split_ifs at * with hzero hpacked hgrown
  · cases h
    rfl
  · cases h
    rfl
  · cases h
    rfl

theorem le_of_nearest_eq_finite (hn : 0 < n) (hm : 0 < m) {x : ℚ} (hd : 0 < d)
    (hx : (n : ℚ) = d * x)
    (h : Binary64.nearest false n d = .finite false m e hcanonical) :
    (2 : ℚ) ^ (-1075 : Int) ≤ x := by
  rw [nearest_of_pos false hn] at h
  have hmantissa : ¬ roundedMantissa n d ≤ 0 := by
    intro hle
    rw [Nat.le_zero.mp hle] at h
    unfold Binary64.pack at h
    split_ifs at h with hpacked hgrown
    · cases h
      exact absurd hm (Nat.lt_irrefl 0)
    · exact absurd hgrown.1 (by decide)
  have hdpos : (0 : ℚ) < d := Nat.cast_pos.mpr hd
  have hleast : (2 : ℚ) ^ (-1074 : Int) ≤ 2 ^ roundingExponent n d :=
    zpow_le_zpow_right₀ one_le_two (le_max_right _ _)
  have hhalf : (2 : ℚ) ^ (-1074 : Int) = 2 * 2 ^ (-1075 : Int) := by
    rw [← zpow_one_add₀ two_ne_zero]
    rfl
  have hpast : (d * 2 ^ roundingExponent n d : ℚ) ≤ 2 * n := by
    rw [roundedMantissa, roundQuotient_le_iff (raise_pos hd _), not_or] at hmantissa
    have hle := (mul_raise_le_iff (n := n) (d := d) (k := roundingExponent n d) 1 2).mp (by omega)
    simpa using hle
  rw [hx] at hpast
  refine le_of_mul_le_mul_left ?_ hdpos
  have hscaled := mul_le_mul_of_nonneg_left hleast hdpos.le
  rw [hhalf] at hscaled
  linarith

theorem lt_of_nearest_eq_finite {x : ℚ} (hd : 0 < d) (hx : (n : ℚ) = d * x)
    (h : Binary64.nearest false n d = .finite false m e hcanonical) : x < 2 ^ (1024 : Int) := by
  have hdpos : (0 : ℚ) < d := Nat.cast_pos.mpr hd
  have hfinite : (Binary64.nearest false n d).isFinite = true := by rw [h]; rfl
  have hlt : (n : ℚ) < d * floatRange := by
    exact_mod_cast (isFinite_nearest_iff false hd).mp hfinite
  rw [hx] at hlt
  exact (lt_of_mul_lt_mul_left hlt hdpos.le).trans_le floatRange_bounds.2

/-- The bound on decimal powers leaves every floating-point number in reach. -/
theorem powerBound_spec :
    (2 : ℚ) ^ (1024 : Int) ≤ 10 ^ powerBound ∧ (10 : ℚ) ^ (-powerBound) ≤ 2 ^ (-1075 : Int) := by
  have hthousand : (2 : ℚ) ^ (1200 : Nat) ≤ 10 ^ (400 : Nat) := by
    rw [pow_mul (2 : ℚ) 3 400]
    exact pow_le_pow_left₀ (by norm_num) (by norm_num) 400
  have hmore : (2 : ℚ) ^ (1200 : Int) ≤ 10 ^ powerBound := hthousand
  constructor
  · exact (zpow_le_zpow_right₀ one_le_two (by decide)).trans hmore
  · rw [zpow_neg, zpow_neg]
    refine inv_anti₀ (zpow_pos two_pos _) ?_
    exact (zpow_le_zpow_right₀ one_le_two (by decide)).trans hmore

theorem Decimal.digits_pos_of_toBinary64 {x : Decimal} (hm : 0 < m)
    (h : x.toBinary64 false = .finite false m e hcanonical) : 0 < x.digits := by
  refine Nat.pos_of_ne_zero fun hzero => ?_
  have hnone : x.toBinary64 false = .zero false := by
    rw [Decimal.toBinary64, hzero, raiseTen, Nat.zero_mul]
    rfl
  rw [hnone] at h
  cases h
  exact absurd hm (Nat.lt_irrefl 0)

theorem ofDecimal_of_toBinary64 {x : Decimal} (hm : 0 < m)
    (h : x.toBinary64 false = .finite false m e hcanonical) (s : Bool) :
    ofDecimal s x.digits x.exponent = .finite s m e hcanonical := by
  have hd : 0 < raiseTen 1 (-x.exponent) := raiseTen_pos one_pos _
  have hvalue := x.raiseTen_eq_mul_value
  have hdigits := Decimal.digits_pos_of_toBinary64 hm h
  have hlow := le_of_nearest_eq_finite (raiseTen_pos hdigits _) hm hd hvalue h
  have hhigh := lt_of_nearest_eq_finite hd hvalue h
  obtain ⟨hatLeast, hlong⟩ := x.value_bounds hdigits
  have hsmall : -powerBound < decimalLength x.digits + x.exponent :=
    (zpow_lt_zpow_iff_right₀ (by norm_num : (1 : ℚ) < 10)).mp
      ((powerBound_spec.2.trans hlow).trans_lt hlong)
  have hlarge : decimalLength x.digits + x.exponent - 1 < powerBound :=
    (zpow_lt_zpow_iff_right₀ (by norm_num : (1 : ℚ) < 10)).mp
      (hatLeast.trans_lt (hhigh.trans_le powerBound_spec.1))
  have hinside : ¬ (x.digits = 0 ∨ decimalLength x.digits + x.exponent < -powerBound) := by omega
  have hshort : ¬ powerBound < decimalLength x.digits + x.exponent := by omega
  unfold ofDecimal
  simp only [Bool.or_eq_true, decide_eq_true_eq]
  rw [if_neg hinside, if_neg hshort]
  exact nearest_of_finite h s

end Reading

end ScriptProfiling
