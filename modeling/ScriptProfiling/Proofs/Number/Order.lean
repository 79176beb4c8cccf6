import ScriptProfiling.Number.Basic
import Mathlib.Data.List.Basic

/-!
# Comparing numbers

Two numbers compare in one way exactly when neither of them is the value that is not a
number. Against that value nothing is less, and nothing at least.

A check that asks for less and one that asks for not at least therefore differ on that value, and
nowhere else.
-/
namespace ScriptProfiling
namespace Scaled

theorem compare?_eq_none {x y : Scaled} : compare? x y = none ↔ x = .nan ∨ y = .nan := by
  cases x <;> cases y <;> simp [compare?]

theorem ge_nan (x : Scaled) : ge x .nan = false := by cases x <;> rfl

theorem lt_eq_not_ge {x y : Scaled} (hx : x ≠ .nan) (hy : y ≠ .nan) : lt x y = !ge x y := by
  cases hcompare : compare? x y with
  | none =>
    rcases compare?_eq_none.mp hcompare with h | h
    · exact absurd h hx
    · exact absurd h hy
  | some order =>
    unfold ge lt gt
    rw [hcompare]
    cases order <;> rfl

theorem gt_eq_not_le {x y : Scaled} (hx : x ≠ .nan) (hy : y ≠ .nan) : gt x y = !le x y := by
  cases hcompare : compare? x y with
  | none =>
    rcases compare?_eq_none.mp hcompare with h | h
    · exact absurd h hx
    · exact absurd h hy
  | some order =>
    unfold le lt gt
    rw [hcompare]
    cases order <;> rfl

/-- Two numbers of which one is greater, or no less, are not the value that is no number. -/
theorem ne_nan_of_ge {x y : Scaled} (h : ge x y = true) : x ≠ .nan ∧ y ≠ .nan := by
  rw [← not_or, ← compare?_eq_none]
  intro hnone
  unfold ge gt at h
  rw [hnone] at h
  cases h

theorem ne_nan_of_gt {x y : Scaled} (h : gt x y = true) : x ≠ .nan ∧ y ≠ .nan :=
  ne_nan_of_ge (by unfold ge; rw [h]; rfl)

end Scaled

namespace Binary64

theorem pack_ne_nan (s : Bool) (m : Nat) (e : Int) : pack s m e ≠ .nan := by
  unfold pack
  split_ifs <;> simp

theorem nearest_ne_nan (s : Bool) (n d : Nat) : nearest s n d ≠ .nan := by
  unfold nearest
  split_ifs
  · simp [zero]
  · exact pack_ne_nan _ _ _

theorem divNat_ne_nan {x : Binary64} (hx : x ≠ .nan) (n : Nat) : x.divNat n ≠ .nan := by
  cases x with
  | nan => exact absurd rfl hx
  | infinite s => simp [divNat]
  | finite s m e h => exact nearest_ne_nan _ _ _

end Binary64

namespace Number

theorem scaled_eq_nan {x : Number} : x.scaled = .nan ↔ x = .float .nan := by
  cases x with
  | int n => simp [scaled, Scaled.ofInt]
  | float y => cases y <;> simp [scaled, Scaled.ofBinary64]
  | flag b => simp [scaled, Scaled.ofInt]

theorem lt_nan (x : Number) : x.lt (.float .nan) = false := Scaled.lt_nan _

theorem ge_nan (x : Number) : x.ge (.float .nan) = false := Scaled.ge_nan _

theorem lt_eq_not_ge {x y : Number} (hx : x ≠ .float .nan) (hy : y ≠ .float .nan) :
    x.lt y = !x.ge y :=
  Scaled.lt_eq_not_ge (mt scaled_eq_nan.mp hx) (mt scaled_eq_nan.mp hy)

theorem scaled_of_whole? {x : Number} {n : Int} (h : x.whole? = some n) : x.scaled = .ofInt n := by
  cases x with
  | int m => rw [← Option.some.inj h]; rfl
  | flag b => rw [← Option.some.inj h]; rfl
  | float y => cases h

theorem lt_whole {x y : Number} {m n : Int} (hx : x.whole? = some m) (hy : y.whole? = some n) :
    x.lt y = decide (m < n) := by
  rw [lt, scaled_of_whole? hx, scaled_of_whole? hy, Scaled.lt, Scaled.compare?_ofInt,
    Bool.eq_iff_iff, beq_iff_eq, Option.some.injEq, decide_eq_true_iff]
  exact Int.compare_eq_lt

theorem lt_int {x : Number} {n : Int} (h : x.whole? = some n) (m : Int) :
    x.lt (.int m) = decide (n < m) := lt_whole h rfl

theorem ge_iff_of_not_lt {x y : Number} (h : x.lt y = false) :
    x.ge y = true ↔ x ≠ .float .nan ∧ y ≠ .float .nan := by
  constructor
  · intro hge
    exact (Scaled.ne_nan_of_ge hge).imp (mt scaled_eq_nan.mpr) (mt scaled_eq_nan.mpr)
  · rintro ⟨hx, hy⟩
    rw [lt_eq_not_ge hx hy] at h
    simpa using h

theorem gt_iff_of_not_le {x y : Number} (h : x.le y = false) :
    x.gt y = true ↔ x ≠ .float .nan ∧ y ≠ .float .nan := by
  constructor
  · intro hgt
    exact (Scaled.ne_nan_of_gt hgt).imp (mt scaled_eq_nan.mpr) (mt scaled_eq_nan.mpr)
  · rintro ⟨hx, hy⟩
    have hgt := Scaled.gt_eq_not_le (mt scaled_eq_nan.mp hx) (mt scaled_eq_nan.mp hy)
    unfold le at h
    rw [h] at hgt
    exact hgt

end Number
end ScriptProfiling
