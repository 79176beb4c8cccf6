import ScriptProfiling.Number.Reading
import Mathlib.Algebra.Group.Nat.Defs
import Mathlib.Data.List.Induction

/-!
# Numerals and their length

The limit of digits is a bound on numbers: what has no more digits than the limit is below
a power of ten, and the digits of a numeral bound the number that it writes.

Both directions are used: a number that a reader has accepted can be written, and one that is too
long to be written cannot have been read.
-/
namespace ScriptProfiling

theorem length_numeral_le_iff {n k : Nat} (hk : 0 < k) : (numeral n).length ≤ k ↔ n < 10 ^ k :=
  Nat.length_toDigits_le_iff (by decide) hk

/-- A number that can be written. -/
def WithinDigits (n : Int) : Prop := n.natAbs < 10 ^ digitLimit

instance (n : Int) : Decidable (WithinDigits n) := Nat.decLt _ _

theorem length_numeral_le_digitLimit_iff (n : Int) :
    (numeral n.natAbs).length ≤ digitLimit ↔ WithinDigits n :=
  length_numeral_le_iff (by decide)

theorem isOk_wholeTextLimited (n : Int) :
    (wholeTextLimited n).isOk = true ↔ WithinDigits n := by
  rw [← length_numeral_le_digitLimit_iff, wholeTextLimited]
  split
  · next h => simpa [Except.isOk, Except.toBool] using h
  · next h => simpa [Except.isOk, Except.toBool] using h

theorem digitValue_lt_ten {c : Char} {d : Nat} (h : digitValue? c = some d) : d < 10 := by
  obtain ⟨z, hz, rfl⟩ := Option.map_eq_some_iff.mp h
  have hrange := List.find?_some hz
  simp only [Bool.and_eq_true, decide_eq_true_eq] at hrange
  omega

theorem digitsValue_lt (cs : List Char) : digitsValue cs < 10 ^ cs.length := by
  induction cs using List.reverseRecOn with
  | nil => decide
  | append_singleton cs c ih =>
    have hdigit : (digitValue? c).getD 0 < 10 := by
      cases hd : digitValue? c with
      | none => decide
      | some d => exact digitValue_lt_ten hd
    rw [digitsValue_append_singleton, List.length_append, List.length_singleton, Nat.pow_succ]
    omega

theorem withinDigits_digitsValue {cs : List Char} (h : cs.length ≤ digitLimit) :
    WithinDigits (digitsValue cs) :=
  Nat.lt_of_lt_of_le (digitsValue_lt cs) (Nat.pow_le_pow_right (by decide) h)

theorem withinDigits_zero : WithinDigits 0 := Nat.pow_pos (by decide)

theorem withinDigits_neg {n : Int} (h : WithinDigits n) : WithinDigits (-n) := by
  rwa [WithinDigits, Int.natAbs_neg]

section Digits

theorem isDigit_of_mem_numeral {n : Nat} {c : Char} (h : c ∈ numeral n) : c.isDigit = true :=
  Nat.isDigit_of_mem_toDigits (by decide) (by decide) h

theorem toNat_of_isDigit {c : Char} (h : c.isDigit = true) : 48 ≤ c.toNat ∧ c.toNat ≤ 57 := by
  simp only [Char.isDigit, Bool.and_eq_true, decide_eq_true_eq] at h
  exact h

theorem isAsciiDigit_of_isDigit {c : Char} (h : c.isDigit = true) : isAsciiDigit c = true := by
  simpa [isAsciiDigit, Char.isDigit, Char.le_def] using h

theorem digitValue?_of_isDigit {c : Char} (h : c.isDigit = true) :
    digitValue? c = some (c.toNat - 48) := by
  have hrange := toNat_of_isDigit h
  have hlow : decide (48 ≤ c.toNat) = true := decide_eq_true hrange.1
  have hhigh : decide (c.toNat < 48 + 10) = true := decide_eq_true (by omega)
  rw [digitValue?, digitZeros, List.find?_cons, hlow, hhigh]
  rfl

theorem digitsValue_eq_ofDigitChars {cs : List Char} (h : ∀ c ∈ cs, c.isDigit = true) :
    digitsValue cs = Nat.ofDigitChars 10 cs 0 := by
  induction cs using List.reverseRecOn with
  | nil => rfl
  | append_singleton cs c ih =>
    have hcs : ∀ d ∈ cs, d.isDigit = true := fun d hd => h d (List.mem_append_left _ hd)
    have hc : c.isDigit = true := h c (by simp)
    rw [digitsValue_append_singleton, ih hcs, digitValue?_of_isDigit hc, Nat.ofDigitChars_append]
    rfl

@[simp] theorem digitsValue_numeral (n : Nat) : digitsValue (numeral n) = n := by
  have hdigits : ∀ c ∈ numeral n, c.isDigit = true := fun c hc =>
    Nat.isDigit_of_mem_toDigits (by decide) (by decide) hc
  rw [digitsValue_eq_ofDigitChars hdigits]
  exact Nat.ofDigitChars_ten_toDigits

theorem numeral_eq_zero_cons {n : Nat} {cs : List Char} (h : numeral n = '0' :: cs) : cs = [] := by
  by_contra hne
  have hpos : 0 < cs.length := List.length_pos_iff.mpr hne
  have hvalue : digitsValue ('0' :: cs) = digitsValue cs := rfl
  have hlt : n < 10 ^ cs.length := by
    have hn := digitsValue_numeral n
    rw [h, hvalue] at hn
    have := digitsValue_lt cs
    omega
  have hle := (length_numeral_le_iff hpos).mpr hlt
  rw [h, List.length_cons] at hle
  omega

end Digits

end ScriptProfiling
