import ScriptProfiling.Proofs.Json.Writing
import ScriptProfiling.Proofs.Number.Shortest

/-!
# Floating-point numbers are read as they were written

Of the two layouts of a decimal each is read part by part: digits, a fraction, a power of ten. What
comes of it has the value of the decimal, so a number is read back from its shortest text.

The value of a numeral does not depend on where its point stands, only on its digits and the power
that they are scaled by, so the four shapes of a layout come to one computation. The values that
are no numbers have names, and none of these begins another.
-/
namespace ScriptProfiling

section Digits

theorem digitsValue_append_zeros (cs : List Char) (k : Nat) :
    digitsValue (cs ++ List.replicate k '0') = digitsValue cs * 10 ^ k := by
  induction k with
  | zero => simp
  | succ k ih =>
    have hzero : (digitValue? '0').getD 0 = 0 := rfl
    rw [List.replicate_succ', ← List.append_assoc, digitsValue_append_singleton, ih, hzero,
      Nat.pow_succ]
    ring

theorem digitsValue_zeros_append (k : Nat) (cs : List Char) :
    digitsValue (List.replicate k '0' ++ cs) = digitsValue cs := by
  induction k with
  | zero => rfl
  | succ k ih => exact ih

theorem digitsValue_paddedNumeral (width n : Nat) : digitsValue (paddedNumeral width n) = n := by
  rw [paddedNumeral, digitsValue_zeros_append, digitsValue_numeral]

theorem head?_numeral_ne {n : Nat} (h : 0 < n) : (numeral n).head? ≠ some '0' := by
  intro hzero
  obtain ⟨cs, hcs⟩ := List.head?_eq_some_iff.mp hzero
  have hvalue := digitsValue_numeral n
  rw [hcs, numeral_eq_zero_cons hcs] at hvalue
  have hnone : digitsValue ['0'] = 0 := rfl
  omega

end Digits

namespace Json

section Parts

variable {rest digits fraction : List Char}

theorem readFraction_digits (hne : digits ≠ []) (hdigits : ∀ c ∈ digits, isAsciiDigit c = true)
    (hrest : EndsDigits rest) : readFraction ('.' :: (digits ++ rest)) = (digits, rest) := by
  have htake := takeWhile_digits hdigits hrest
  simp [readFraction, htake, hne]

theorem readFraction_zero (hrest : EndsDigits rest) :
    readFraction ('.' :: '0' :: rest) = (['0'], rest) :=
  readFraction_digits (List.cons_ne_nil _ _) (List.forall_mem_singleton.mpr rfl) hrest

theorem readPower_digits (negative : Bool) (hne : digits ≠ [])
    (hdigits : ∀ c ∈ digits, isAsciiDigit c = true) (hrest : EndsDigits rest) :
    readPower ('e' :: (if negative then '-' else '+') :: (digits ++ rest)) =
      (some (if negative then -(digitsValue digits : Int) else digitsValue digits), rest) := by
  have htake := takeWhile_digits hdigits hrest
  have hsign : takeSign ((if negative then '-' else '+') :: (digits ++ rest)) =
      (negative, digits ++ rest) := by
    cases negative <;> rfl
  simp [readPower, hsign, htake, hne]

theorem readNatural?_zero (rest : List Char) :
    readNatural? ('0' :: rest) = some (['0'], rest) :=
  rfl

theorem readUnsigned_of_parts {cs more tail : List Char} {power? : Option Int} (negative : Bool)
    (hdigits : readNatural? cs = some (digits, more))
    (hfraction : readFraction more = (fraction, tail))
    (hpower : readPower tail = (power?, rest)) (hfloat : fraction ≠ [] ∨ power?.isSome = true) :
    readUnsigned negative cs = .ok (.float (ofDecimal negative (digitsValue (digits ++ fraction))
      (power?.getD 0 - fraction.length)), rest) := by
  have hnot : (fraction.isEmpty && power?.isNone) = false := by
    cases fraction with
    | nil => simpa using hfloat
    | cons c cs => rfl
  simp [readUnsigned, hdigits, hfraction, hpower, hnot]

end Parts

section Layout

/-- The digits of a number without zeros before them. -/
structure Leading (ds : List Char) : Prop where
  ne : ds ≠ []
  head : ds.head? ≠ some '0'
  digits : ∀ c ∈ ds, isAsciiDigit c = true

variable {ds rest : List Char} (h : Leading ds) (negative : Bool)

include h

theorem Leading.append_zeros (k : Nat) :
    ∀ c ∈ ds ++ List.replicate k '0', isAsciiDigit c = true := by
  intro c hc
  rcases List.mem_append.mp hc with hc | hc
  · exact h.digits c hc
  · rw [(List.mem_replicate.mp hc).2]
    decide

theorem Leading.take {k : Nat} (hk : 0 < k) : Leading (ds.take k) := by
  obtain ⟨k, rfl⟩ : ∃ j, k = j + 1 := ⟨k - 1, by omega⟩
  obtain ⟨c, cs, rfl⟩ := List.exists_cons_of_ne_nil h.ne
  exact ⟨List.cons_ne_nil _ _, h.head, fun d hd => h.digits d (List.mem_of_mem_take hd)⟩

theorem Leading.readNatural? (hrest : EndsDigits rest) :
    Json.readNatural? (ds ++ rest) = some (ds, rest) :=
  readNatural?_digits h.ne h.head h.digits hrest

theorem readUnsigned_small (k : Nat) (hrest : EndsNumber rest) :
    readUnsigned negative ('0' :: '.' :: List.replicate k '0' ++ ds ++ rest) =
      .ok (.float (ofDecimal negative (digitsValue ds) (-(k + ds.length : Int))), rest) := by
  have hne : List.replicate k '0' ++ ds ≠ [] := by simp [h.ne]
  have hdigits : ∀ c ∈ List.replicate k '0' ++ ds, isAsciiDigit c = true := by
    intro c hc
    exact h.append_zeros k c (by simpa [or_comm] using hc)
  have hfraction := readFraction_digits hne hdigits hrest.endsDigits
  have hread := readUnsigned_of_parts negative (readNatural?_zero _) hfraction (readPower_eq hrest)
    (Or.inl hne)
  have hvalue : digitsValue (['0'] ++ (List.replicate k '0' ++ ds)) = digitsValue ds :=
    digitsValue_zeros_append k ds
  rw [hvalue] at hread
  simpa using hread

theorem readUnsigned_large (k : Nat) (hrest : EndsNumber rest) :
    readUnsigned negative (ds ++ List.replicate k '0' ++ ['.', '0'] ++ rest) =
      .ok (.float (ofDecimal negative (digitsValue ds * 10 ^ (k + 1)) (-1)), rest) := by
  have hne : ds ++ List.replicate k '0' ≠ [] := by simp [h.ne]
  have hhead : (ds ++ List.replicate k '0').head? ≠ some '0' := by
    rw [List.head?_append_of_ne_nil _ h.ne]
    exact h.head
  have hpoint : EndsDigits ('.' :: ('0' :: rest)) := endsDigits_cons (by decide) _
  have hnatural := readNatural?_digits hne hhead (h.append_zeros k) hpoint
  have hread := readUnsigned_of_parts negative hnatural (readFraction_zero hrest.endsDigits)
    (readPower_eq hrest) (Or.inl (List.cons_ne_nil _ _))
  have hvalue : digitsValue (ds ++ List.replicate k '0' ++ ['0']) =
      digitsValue ds * 10 ^ (k + 1) := by
    rw [← digitsValue_append_zeros, List.replicate_succ', List.append_assoc]
  rw [hvalue] at hread
  simpa using hread

theorem readUnsigned_middle {p : Nat} (hp : 0 < p) (hlength : p < ds.length)
    (hrest : EndsNumber rest) :
    readUnsigned negative (ds.take p ++ '.' :: ds.drop p ++ rest) =
      .ok (.float (ofDecimal negative (digitsValue ds) (-((ds.length - p : Nat) : Int))),
        rest) := by
  have hpoint : EndsDigits ('.' :: (ds.drop p ++ rest)) := endsDigits_cons (by decide) _
  have hfirst := (h.take hp).readNatural? hpoint
  have hne : ds.drop p ≠ [] := by simpa using hlength
  have hfraction : readFraction ('.' :: (ds.drop p ++ rest)) = (ds.drop p, rest) :=
    readFraction_digits hne (fun c hc => h.digits c (List.mem_of_mem_drop hc)) hrest.endsDigits
  have hread := readUnsigned_of_parts negative hfirst hfraction (readPower_eq hrest) (Or.inl hne)
  rw [List.take_append_drop] at hread
  simpa using hread

theorem readUnsigned_power (down : Bool) (n : Nat) (hrest : EndsNumber rest) :
    readUnsigned negative (ds.take 1 ++ (if ds.length = 1 then [] else '.' :: ds.drop 1) ++
        'e' :: (if down then '-' else '+') :: paddedNumeral 2 n ++ rest) =
      .ok (.float (ofDecimal negative (digitsValue ds)
        ((if down then -(n : Int) else n) - ((ds.length - 1 : Nat) : Int))), rest) := by
  have hpadded : ∀ c ∈ paddedNumeral 2 n, isAsciiDigit c = true := by
    intro c hc
    rcases List.mem_append.mp hc with hc | hc
    · rw [(List.mem_replicate.mp hc).2]
      decide
    · exact isAsciiDigit_of_mem_numeral hc
  have hne : paddedNumeral 2 n ≠ [] := by simp [paddedNumeral, numeral, Nat.toDigits_ne_nil]
  have hpower := readPower_digits down hne hpadded hrest.endsDigits
  rw [digitsValue_paddedNumeral] at hpower
  have hmark : ∀ more, EndsDigits ('e' :: more) := endsDigits_cons (by decide)
  by_cases hone : ds.length = 1
  · have hnone : ∀ more, readFraction ('e' :: more) = ([], 'e' :: more) := fun more => rfl
    have hread := readUnsigned_of_parts negative ((h.take one_pos).readNatural? (hmark _)) (hnone _)
      hpower (Or.inr rfl)
    rw [List.append_nil, List.take_of_length_le hone.le] at hread
    simpa [hone, List.take_of_length_le hone.le] using hread
  · have hmore : ds.drop 1 ≠ [] := by
      have hpos : 0 < ds.length := List.length_pos_iff.mpr h.ne
      simp only [ne_eq, List.drop_eq_nil_iff]
      omega
    have hpoint : ∀ more, EndsDigits ('.' :: more) := endsDigits_cons (by decide)
    have hfraction := readFraction_digits hmore (fun c hc => h.digits c (List.mem_of_mem_drop hc))
      (hmark ((if down then '-' else '+') :: (paddedNumeral 2 n ++ rest)))
    have hread :=
      readUnsigned_of_parts negative ((h.take one_pos).readNatural? (hpoint _)) hfraction
      hpower (Or.inl hmore)
    rw [List.take_append_drop] at hread
    simpa [hone] using hread

end Layout

section Numerals

variable {rest : List Char} (x : Decimal)

/-- A layout is read as a number of its decimal's value. -/
theorem readUnsigned_layout (hx : 0 < x.digits) (negative : Bool) (hrest : EndsNumber rest) :
    ∃ y : Decimal, y.value = x.value ∧ readUnsigned negative (x.layout ++ rest) =
      .ok (.float (ofDecimal negative y.digits y.exponent), rest) := by
  have hleading : Leading (numeral x.digits) :=
    ⟨Nat.toDigits_ne_nil, head?_numeral_ne hx, fun c => isAsciiDigit_of_mem_numeral⟩
  have hvalue := digitsValue_numeral x.digits
  unfold Decimal.layout
  dsimp only
  generalize numeral x.digits = ds at *
  split
  · split
    · next hrange hpoint =>
      refine ⟨x, rfl, ?_⟩
      have hexponent : -(((-(ds.length + x.exponent)).toNat : Int) + ds.length) = x.exponent := by
        omega
      rw [readUnsigned_small hleading negative _ hrest, hvalue, hexponent]
    · split
      · next hrange hpoint hlong =>
        generalize hk : ((ds.length : Int) + x.exponent).toNat - ds.length = k
        refine ⟨⟨x.digits * 10 ^ (k + 1), -1⟩, ?_, ?_⟩
        · have hexponent : x.exponent = ((k + 1 : Nat) : Int) + -1 := by omega
          have hten : (10 : ℚ) ≠ 0 := by norm_num
          rw [Decimal.value, Decimal.value, hexponent, zpow_add₀ hten, zpow_natCast]
          push_cast
          ring
        · rw [readUnsigned_large hleading negative _ hrest, hvalue]
      · next hrange hpoint hshort =>
        refine ⟨x, rfl, ?_⟩
        have hexponent : -((ds.length - (ds.length + x.exponent).toNat : Nat) : Int) =
            x.exponent := by omega
        rw [readUnsigned_middle hleading negative (by omega) (by omega) hrest, hvalue, hexponent]
  · next hrange =>
    refine ⟨x, rfl, ?_⟩
    have hpos : 0 < ds.length := List.length_pos_iff.mpr hleading.ne
    have hread := readUnsigned_power hleading negative
      (decide ((ds.length : Int) + x.exponent - 1 < 0))
      ((ds.length : Int) + x.exponent - 1).natAbs hrest
    have hexponent : (if (ds.length : Int) + x.exponent - 1 < 0 then
        -(((ds.length : Int) + x.exponent - 1).natAbs : Int)
        else (((ds.length : Int) + x.exponent - 1).natAbs : Int)) - ((ds.length - 1 : Nat) : Int) =
          x.exponent := by
      split <;> omega
    simp only [decide_eq_true_eq] at hread
    rw [hvalue, hexponent] at hread
    exact hread

theorem printed_layout : ∀ c ∈ x.layout, Printed c := by
  have hnumeral : ∀ n : Nat, ∀ c ∈ numeral n, Printed c := fun n c hc =>
    printed_of_isAsciiDigit (isAsciiDigit_of_mem_numeral hc)
  have htake : ∀ k, ∀ c ∈ (numeral x.digits).take k, Printed c := fun k c hc =>
    hnumeral _ c (List.mem_of_mem_take hc)
  have hdrop : ∀ k, ∀ c ∈ (numeral x.digits).drop k, Printed c := fun k c hc =>
    hnumeral _ c (List.mem_of_mem_drop hc)
  have hzeros : ∀ k, ∀ c ∈ List.replicate k '0', Printed c := by
    intro k c hc
    rw [(List.mem_replicate.mp hc).2]
    decide
  have hpadded : ∀ width n, ∀ c ∈ paddedNumeral width n, Printed c := by
    intro width n
    exact List.forall_mem_append.mpr ⟨hzeros _, hnumeral n⟩
  obtain ⟨hpoint, hzero, hmark⟩ : Printed '.' ∧ Printed '0' ∧ Printed 'e' := by decide
  have hsign : ∀ negative : Prop, [Decidable negative] →
      Printed (if negative then '-' else '+') := by
    intro negative _
    split <;> decide
  have hnone : ∀ c ∈ ([] : List Char), Printed c := List.forall_mem_nil _
  unfold Decimal.layout
  dsimp only
  split
  · split
    · simp only [List.forall_mem_append, List.forall_mem_cons]
      exact ⟨⟨hzero, hpoint, hzeros _⟩, hnumeral _⟩
    · split
      · simp only [List.forall_mem_append, List.forall_mem_cons]
        exact ⟨⟨hnumeral _, hzeros _⟩, hpoint, hzero, hnone⟩
      · simp only [List.forall_mem_append, List.forall_mem_cons]
        exact ⟨htake _, hpoint, hdrop _⟩
  · have hfraction : ∀ c ∈ (if (numeral x.digits).length = 1 then []
        else '.' :: (numeral x.digits).drop 1), Printed c := by
      split
      · exact hnone
      · exact List.forall_mem_cons.mpr ⟨hpoint, hdrop 1⟩
    simp only [List.forall_mem_append, List.forall_mem_cons]
    exact ⟨⟨htake 1, hfraction⟩, hmark, hsign _, hpadded 2 _⟩

theorem exists_digit_of_readUnsigned {cs : List Char} {r : Json × List Char} {negative : Bool}
    (h : readUnsigned negative cs = .ok r) : ∃ c more, cs = c :: more ∧ isAsciiDigit c = true := by
  cases cs with
  | nil => cases h
  | cons c more =>
    refine ⟨c, more, rfl, ?_⟩
    by_contra hnot
    have hzero : c ≠ '0' := by
      rintro rfl
      exact hnot (by decide)
    have hnone : readNatural? (c :: more) = none := by
      unfold readNatural?
      split
      · next heq => exact absurd (List.cons.inj heq).1 hzero
      · simp [hnot]
    rw [readUnsigned, hnone] at h
    cases h

end Numerals

section Floats

variable {rest : List Char}

/-- A numeral of a number other than zero is read as that number, with its sign. -/
theorem readUnsigned_shortest {m : Nat} {e : Int} (hcanonical : Canonical m e) (hm : 0 < m)
    (negative : Bool) (hrest : EndsNumber rest) :
    readUnsigned negative
        ((Decimal.shortest (.finite false m e hcanonical) (raise m e) (raise 1 (-e))).layout ++
          rest) =
      .ok (.float (.finite negative m e hcanonical), rest) := by
  have hback := Decimal.toBinary64_shortest hcanonical hm
  generalize Decimal.shortest (.finite false m e hcanonical) (raise m e) (raise 1 (-e)) = x at *
  obtain ⟨y, hvalue, hread⟩ := readUnsigned_layout x (Decimal.digits_pos_of_toBinary64 hm hback)
    negative hrest
  rw [Decimal.toBinary64_congr hvalue.symm] at hback
  rw [hread, ofDecimal_of_toBinary64 hm hback]

theorem exists_numeral (negative : Bool) {m : Nat} {e : Int} (hcanonical : Canonical m e) :
    ∃ cs, floatChars (.finite negative m e hcanonical) = (if negative then '-' :: cs else cs) ∧
      (∀ c ∈ cs, Printed c) ∧ ∀ rest, EndsNumber rest → readUnsigned negative (cs ++ rest) =
        .ok (.float (.finite negative m e hcanonical), rest) := by
  by_cases hm : m = 0
  · have hleast : e = -1074 := by
      rcases hcanonical.2.2.2 with hfull | hleast
      · exact absurd hfull (by rw [hm]; decide)
      · exact hleast
    subst hm hleast
    refine ⟨['0', '.', '0'], ?_, printed_of_all rfl, fun rest hrest => ?_⟩
    · simp [floatChars, Binary64.text, Binary64.withSign]
    · exact readUnsigned_of_parts negative (readNatural?_zero _)
        (readFraction_zero hrest.endsDigits)
        (readPower_eq hrest) (Or.inl (List.cons_ne_nil _ _))
  · refine ⟨_, ?_, printed_layout _, fun rest hrest =>
      readUnsigned_shortest hcanonical (Nat.pos_of_ne_zero hm) negative hrest⟩
    simp [floatChars, Binary64.text, Binary64.withSign, hm]

/-- No name of a value begins another one. -/
theorem readScalar_named {name : String} {x : Json} (h : (name, x) ∈ namedValues)
    (rest : List Char) : readScalar (name.toList ++ rest) = .ok (x, rest) := by
  simp only [namedValues, List.mem_cons, List.not_mem_nil, or_false, Prod.mk.injEq] at h
  rcases h with ⟨rfl, rfl⟩ | ⟨rfl, rfl⟩ | ⟨rfl, rfl⟩ | ⟨rfl, rfl⟩ | ⟨rfl, rfl⟩ | ⟨rfl, rfl⟩ <;> rfl

theorem opensScalar_of_named {name : String} {x : Json} (h : (name, x) ∈ namedValues) :
    ∃ first more, name.toList = first :: more ∧ OpensScalar first ∧
      ∀ c ∈ name.toList, Printed c := by
  simp only [namedValues, List.mem_cons, List.not_mem_nil, or_false, Prod.mk.injEq] at h
  rcases h with ⟨rfl, -⟩ | ⟨rfl, -⟩ | ⟨rfl, -⟩ | ⟨rfl, -⟩ | ⟨rfl, -⟩ | ⟨rfl, -⟩ <;>
    exact ⟨_, _, rfl, ⟨by decide, by decide⟩, printed_of_all rfl⟩

theorem readable_of_named {name : String} {x : Json} (h : (name, x) ∈ namedValues)
    (hchars : lineChars x = name.toList) : Readable x := by
  obtain ⟨first, more, hname, hfirst, hprinted⟩ := opensScalar_of_named h
  refine readable_of_readScalar (hchars.trans hname) hfirst (hchars ▸ hprinted) fun rest _ => ?_
  rw [hchars]
  exact readScalar_named h rest

theorem readable_null : Readable .null :=
  readable_of_named (List.mem_cons_self) rfl

theorem readable_bool (b : Bool) : Readable (.bool b) := by
  cases b with
  | false => exact readable_of_named (by simp [namedValues]) rfl
  | true => exact readable_of_named (by simp [namedValues]) rfl

/-- Every floating-point number is read as it was written, also one that is not finite. -/
theorem readable_float (x : Binary64) : Readable (.float x) := by
  cases x with
  | nan => exact readable_of_named (by simp [namedValues]) rfl
  | infinite negative =>
    cases negative with
    | false => exact readable_of_named (by simp [namedValues]) rfl
    | true => exact readable_of_named (by simp [namedValues]) rfl
  | finite negative m e hcanonical =>
    obtain ⟨cs, hcs, hprinted, hread⟩ := exists_numeral negative hcanonical
    have hchars : lineChars (.float (.finite negative m e hcanonical)) =
        (if negative then '-' :: cs else cs) := hcs
    obtain ⟨c, more, hmore, hc⟩ := exists_digit_of_readUnsigned (hread [] (by simp [EndsNumber]))
    rw [List.append_nil] at hmore
    subst hmore
    obtain ⟨first, tail, htail, hfirst, hall⟩ : ∃ first tail,
        (if negative then '-' :: c :: more else c :: more) = first :: tail ∧ OpensScalar first ∧
          ∀ d ∈ first :: tail, Printed d := by
      cases negative with
      | false => exact ⟨_, _, rfl, opensScalar_of_isAsciiDigit hc, hprinted⟩
      | true =>
        exact ⟨_, _, rfl, opensScalar_minus,
          List.forall_mem_cons.mpr ⟨opensScalar_minus.1, hprinted⟩⟩
    rw [htail] at hchars
    refine readable_of_readScalar hchars hfirst (hchars ▸ hall) fun rest hrest => ?_
    rw [hchars, ← htail]
    exact readScalar_signed hc (hread rest hrest)

end Floats

end Json
end ScriptProfiling
