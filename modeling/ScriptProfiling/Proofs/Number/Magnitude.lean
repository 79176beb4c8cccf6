import ScriptProfiling.Proofs.Number.Order
import Mathlib.Algebra.Order.Field.Power
import Mathlib.Data.Rat.Cast.Order
import Mathlib.Order.WithBot
import Mathlib.Tactic.Linarith
import Mathlib.Tactic.Ring

/-!
# The place of a number on the line

A number that is one stands for a rational number or for one of the two ends of the line, and
comparisons of numbers are comparisons of what they stand for. So they are transitive, also
between whole numbers and floating-point numbers.

The ends of the line are the two infinities. The value that is not a number stands nowhere, and
comparisons with it are false both ways, so each law of order asks that the numbers be numbers or
follows from a comparison that holds.
-/
namespace ScriptProfiling

/-- The rational numbers with an end on either side. -/
abbrev Extent := WithBot (WithTop ℚ)

namespace Scaled

def extent? : Scaled → Option Extent
  | .nan => none
  | .infinite true => some ⊥
  | .infinite false => some ((⊤ : WithTop ℚ) : Extent)
  | .exact m e => some (((m * 2 ^ e : ℚ) : WithTop ℚ) : Extent)

section Compare

theorem cast_raise_one {k : Int} (hk : 0 ≤ k) : ((raise 1 k : Nat) : ℚ) = 2 ^ k := by
  obtain ⟨n, rfl⟩ := Int.eq_ofNat_of_zero_le hk
  simp [raise]

theorem cast_mul_raise (m : Int) {e low : Int} (h : low ≤ e) :
    ((m * (raise 1 (e - low) : Nat) : Int) : ℚ) = m * 2 ^ e * 2 ^ (-low) := by
  rw [Int.cast_mul, Int.cast_natCast, cast_raise_one (Int.sub_nonneg.mpr h), Int.sub_eq_add_neg,
    zpow_add₀ two_ne_zero, mul_assoc]

theorem compare_congr {α β : Type} [LinearOrder α] [LinearOrder β] {a b : α} {c d : β}
    (hlt : a < b ↔ c < d) (heq : a = b ↔ c = d) : compare a b = compare c d := by
  rcases lt_trichotomy a b with h | h | h
  · rw [compare_lt_iff_lt.mpr h, compare_lt_iff_lt.mpr (hlt.mp h)]
  · rw [compare_eq_iff_eq.mpr h, compare_eq_iff_eq.mpr (heq.mp h)]
  · have hgt : d < c := by
      rcases lt_trichotomy c d with h' | h' | h'
      · exact absurd (hlt.mpr h') (lt_asymm h)
      · exact absurd (heq.mpr h') (ne_of_gt h)
      · exact h'
    rw [compare_gt_iff_gt.mpr h, compare_gt_iff_gt.mpr hgt]

theorem compare_exact (m n e f : Int) :
    compare (m * (raise 1 (e - min e f) : Nat)) (n * (raise 1 (f - min e f) : Nat) : Int) =
      compare ((((m * 2 ^ e : ℚ) : WithTop ℚ) : Extent))
        (((n * 2 ^ f : ℚ) : WithTop ℚ) : Extent) := by
  have hpos : (0 : ℚ) < 2 ^ (-min e f) := zpow_pos two_pos _
  have hm := cast_mul_raise m (min_le_left e f)
  have hn := cast_mul_raise n (min_le_right e f)
  apply compare_congr
  · rw [← Int.cast_lt (R := ℚ), hm, hn, mul_lt_mul_iff_of_pos_right hpos, WithBot.coe_lt_coe,
      WithTop.coe_lt_coe]
  · rw [← Int.cast_inj (α := ℚ), hm, hn, mul_left_inj' hpos.ne', WithBot.coe_inj, WithTop.coe_inj]

theorem compare?_eq_some_iff {x y : Scaled} {order : Ordering} :
    compare? x y = some order ↔
      ∃ a b, x.extent? = some a ∧ y.extent? = some b ∧ compare a b = order := by
  have hspec : ∀ {a b : Extent} {o : Ordering}, compare a b = o →
      (some o = some order ↔ ∃ c d, some a = some c ∧ some b = some d ∧ compare c d = order) := by
    rintro a b o rfl
    simp
  have hlt : ∀ {a b : Extent}, a < b → compare a b = .lt ∧ compare b a = .gt :=
    fun h => ⟨compare_lt_iff_lt.mpr h, compare_gt_iff_gt.mpr h⟩
  have hlow : ∀ q : ℚ, (⊥ : Extent) < ((q : WithTop ℚ) : Extent) := fun q => WithBot.bot_lt_coe _
  have hhigh : ∀ q : ℚ, ((q : WithTop ℚ) : Extent) < ((⊤ : WithTop ℚ) : Extent) := fun q =>
    WithBot.coe_lt_coe.mpr (WithTop.coe_lt_top q)
  cases x with
  | nan => simp [compare?, extent?]
  | infinite s =>
    cases y with
    | nan => simp [compare?, extent?]
    | infinite t =>
      cases s <;> cases t
      · exact hspec (compare_eq_iff_eq.mpr rfl)
      · exact hspec (hlt (WithBot.bot_lt_coe _)).2
      · exact hspec (hlt (WithBot.bot_lt_coe _)).1
      · exact hspec (compare_eq_iff_eq.mpr rfl)
    | exact n f =>
      cases s
      · exact hspec (hlt (hhigh _)).2
      · exact hspec (hlt (hlow _)).1
  | exact m e =>
    cases y with
    | nan => simp [compare?, extent?]
    | infinite t =>
      cases t
      · exact hspec (hlt (hhigh _)).1
      · exact hspec (hlt (hlow _)).2
    | exact n f => exact hspec (compare_exact m n e f).symm

theorem gt_iff {x y : Scaled} :
    x.gt y = true ↔ ∃ a b, x.extent? = some a ∧ y.extent? = some b ∧ b < a := by
  simp only [gt, beq_iff_eq, compare?_eq_some_iff, compare_gt_iff_gt]

theorem lt_iff {x y : Scaled} :
    x.lt y = true ↔ ∃ a b, x.extent? = some a ∧ y.extent? = some b ∧ a < b := by
  simp only [lt, beq_iff_eq, compare?_eq_some_iff, compare_lt_iff_lt]

theorem ge_iff {x y : Scaled} :
    x.ge y = true ↔ ∃ a b, x.extent? = some a ∧ y.extent? = some b ∧ b ≤ a := by
  rw [ge, Bool.or_eq_true, gt_iff]
  simp only [beq_iff_eq, compare?_eq_some_iff, compare_eq_iff_eq]
  constructor
  · rintro (⟨a, b, hx, hy, h⟩ | ⟨a, b, hx, hy, h⟩)
    · exact ⟨a, b, hx, hy, h.le⟩
    · exact ⟨a, b, hx, hy, h.ge⟩
  · rintro ⟨a, b, hx, hy, h⟩
    rcases h.lt_or_eq with h | h
    · exact Or.inl ⟨a, b, hx, hy, h⟩
    · exact Or.inr ⟨a, b, hx, hy, h.symm⟩

theorem ge_trans {x y z : Scaled} (hxy : x.ge y = true) (hyz : y.ge z = true) : x.ge z = true := by
  obtain ⟨a, b, hx, hy, hba⟩ := ge_iff.mp hxy
  obtain ⟨b', c, hy', hz, hcb⟩ := ge_iff.mp hyz
  obtain rfl := Option.some.inj (hy.symm.trans hy')
  exact ge_iff.mpr ⟨a, c, hx, hz, hcb.trans hba⟩

theorem gt_of_ge_of_gt {x y z : Scaled} (hxy : x.ge y = true) (hyz : y.gt z = true) :
    x.gt z = true := by
  obtain ⟨a, b, hx, hy, hba⟩ := ge_iff.mp hxy
  obtain ⟨b', c, hy', hz, hcb⟩ := gt_iff.mp hyz
  obtain rfl := Option.some.inj (hy.symm.trans hy')
  exact gt_iff.mpr ⟨a, c, hx, hz, hcb.trans_le hba⟩

theorem gt_of_gt_of_ge {x y z : Scaled} (hxy : x.gt y = true) (hyz : y.ge z = true) :
    x.gt z = true := by
  obtain ⟨a, b, hx, hy, hba⟩ := gt_iff.mp hxy
  obtain ⟨b', c, hy', hz, hcb⟩ := ge_iff.mp hyz
  obtain rfl := Option.some.inj (hy.symm.trans hy')
  exact gt_iff.mpr ⟨a, c, hx, hz, hcb.trans_lt hba⟩

theorem ge_ofInt {m n : Int} : (ofInt m).ge (ofInt n) = true ↔ n ≤ m := by
  simp only [ge, gt, compare?_ofInt, Bool.or_eq_true, beq_iff_eq, Option.some.injEq,
    compare_gt_iff_gt, compare_eq_iff_eq]
  omega

end Compare

end Scaled
end ScriptProfiling
