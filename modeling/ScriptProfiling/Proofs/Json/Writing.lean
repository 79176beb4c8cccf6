import ScriptProfiling.Proofs.Catalog
import ScriptProfiling.Proofs.Json.Reading

/-!
# What is written is read again

The text of a value is read back from the head of whatever follows it: a character from its
escape, a whole number from its numeral, an object from its fields.

What follows matters to numbers only, which must not go on (`EndsNumber`). Characters beyond the
basic ones are written as two units, which the reader puts together again, so every text is written
in basic characters and none of them is a line end.
-/
namespace ScriptProfiling
namespace Json

section Escapes

theorem hexNumber?_append_singleton (cs : List Char) (c : Char) :
    hexNumber? (cs ++ [c]) = do return 16 * (← hexNumber? cs) + (← hexValue? c) := by
  rw [hexNumber?, List.foldl_append]
  rfl

theorem hexValue?_hexDigit {n : Nat} (h : n < 16) : hexValue? (hexDigit n) = some n := by
  have hall : ∀ n < 16, hexValue? (hexDigit n) = some n := by decide
  exact hall n h

theorem hexNumber?_hexDigits (width n : Nat) :
    hexNumber? (hexDigits width n) = some (n % 16 ^ width) := by
  induction width generalizing n with
  | zero => simp [hexDigits, hexNumber?, Nat.mod_one]
  | succ width ih =>
    have hdigit : n % 16 < 16 := Nat.mod_lt n (by decide)
    rw [hexDigits, hexNumber?_append_singleton, ih, hexValue?_hexDigit hdigit, Nat.pow_succ',
      Nat.mod_mul]
    simp [Nat.add_comm]

variable {rest : List Char}

/-- A unit is read at its value, as long as the text goes on behind it. -/
theorem readText_unitEscape (u : Units) {n : Nat} (hn : n < 0x10000) (hrest : rest ≠ []) :
    readText u (unitEscape n ++ rest) = readText (u.pushUnit n) rest := by
  obtain ⟨next, cs, rfl⟩ := List.exists_cons_of_ne_nil hrest
  have hvalue : hexNumber? (hexDigits 4 n) = some n := by
    rw [hexNumber?_hexDigits]
    exact congrArg some (Nat.mod_eq_of_lt hn)
  simp only [hexDigits, List.nil_append, List.cons_append] at hvalue
  simp only [unitEscape, hexDigits, List.nil_append, List.cons_append, readText, hvalue]

theorem readText_shortEscape (u : Units) {c d : Char} (hc : c ≠ 'u')
    (hd : shortUnescape? c = some d) :
    readText u ('\\' :: c :: rest) = readText (u.push d) rest := by
  obtain ⟨next, cs, rfl⟩ | rfl : (∃ next cs, rest = next :: cs) ∨ rest = [] := by
    cases rest <;> simp
  · simp [readText, hc, hd]
  · simp [readText, hd]

theorem readText_plain (u : Units) {c : Char} (hquote : c ≠ '"') (hslash : c ≠ '\\')
    (hc : 32 ≤ c.toNat) : readText u (c :: rest) = readText (u.push c) rest := by
  have hprinted : ¬ c.toNat < 32 := Nat.not_lt.mpr hc
  rw [readText.eq_def]
  split
  case h_7 heq =>
    obtain ⟨rfl, rfl⟩ := List.cons.inj heq
    exact if_neg hprinted
  all_goals simp_all

theorem readText_oneUnit (read : List Char) {c : Char} (hc : c.toNat < 0x10000)
    (hrest : rest ≠ []) :
    readText ⟨read, none⟩ (unitEscape c.toNat ++ rest) = readText ⟨c :: read, none⟩ rest := by
  have hvalid : c.toNat < 0xd800 ∨ 0xdfff < c.toNat ∧ c.toNat < 0x110000 := c.valid
  have hhigh : isHighUnit c.toNat = false := by
    simp only [isHighUnit, Bool.and_eq_false_iff, decide_eq_false_iff_not]
    omega
  have hlow : isLowUnit c.toNat = false := by
    simp only [isLowUnit, Bool.and_eq_false_iff, decide_eq_false_iff_not]
    omega
  rw [readText_unitEscape _ hc hrest]
  simp [Units.pushUnit, hhigh, hlow, Units.push, Units.settle]

/-- The two units of a character beyond the basic ones are put together again. -/
theorem readText_twoUnits (read : List Char) {n : Nat} (hn : n < 0x100000) (hrest : rest ≠ []) :
    readText ⟨read, none⟩ (unitEscape (0xd800 + n / 0x400) ++
      (unitEscape (0xdc00 + n % 0x400) ++ rest)) =
      readText ⟨Char.ofNat (0x10000 + n) :: read, none⟩ rest := by
  have hfirst : n / 0x400 < 0x400 := by omega
  have hsecond : n % 0x400 < 0x400 := by omega
  have hne : unitEscape (0xdc00 + n % 0x400) ++ rest ≠ [] := by simp [unitEscape]
  have hhigh : isHighUnit (0xd800 + n / 0x400) = true := by
    simp only [isHighUnit, Bool.and_eq_true, decide_eq_true_eq]
    omega
  have hlow : isLowUnit (0xdc00 + n % 0x400) = true := by
    simp only [isLowUnit, Bool.and_eq_true, decide_eq_true_eq]
    omega
  have hsum : 0x10000 + (0xd800 + n / 0x400 - 0xd800) * 0x400 + (0xdc00 + n % 0x400 - 0xdc00) =
      0x10000 + n := by omega
  rw [readText_unitEscape _ (by omega) hne, readText_unitEscape _ (by omega) hrest]
  simp only [Units.pushUnit, hhigh, hlow, if_true, hsum]

theorem readText_escapedChar (read : List Char) (c : Char) (hrest : rest ≠ []) :
    readText ⟨read, none⟩ (escapedChar c ++ rest) = readText ⟨c :: read, none⟩ rest := by
  have hchar : ∀ n, c.toNat = n → c = Char.ofNat n := fun n hn => by rw [← hn, Char.ofNat_toNat]
  unfold escapedChar
  split_ifs with hself hback htab hfeed hform hreturn hplain hunit
  · have hne : c ≠ 'u' := by rintro rfl; revert hself; decide
    have hshort : shortUnescape? c = some c := by
      rcases hself with rfl | rfl <;> rfl
    exact readText_shortEscape _ hne hshort
  · rw [hchar 8 hback]; exact readText_shortEscape _ (by decide) rfl
  · rw [hchar 9 htab]; exact readText_shortEscape _ (by decide) rfl
  · rw [hchar 10 hfeed]; exact readText_shortEscape _ (by decide) rfl
  · rw [hchar 12 hform]; exact readText_shortEscape _ (by decide) rfl
  · rw [hchar 13 hreturn]; exact readText_shortEscape _ (by decide) rfl
  · rw [not_or] at hself
    exact readText_plain _ hself.1 hself.2 hplain.1
  · exact readText_oneUnit read hunit hrest
  · have hvalid : c.toNat < 0xd800 ∨ 0xdfff < c.toNat ∧ c.toNat < 0x110000 := c.valid
    have hsum : 0x10000 + (c.toNat - 0x10000) = c.toNat := by omega
    have hread := readText_twoUnits read (n := c.toNat - 0x10000) (by omega) hrest
    rw [hsum, Char.ofNat_toNat] at hread
    rw [List.append_assoc]
    exact hread

theorem readText_textChars (read : List Char) (cs : List Char) (rest : List Char) :
    readText ⟨read, none⟩ (cs.flatMap escapedChar ++ '"' :: rest) =
      .ok (String.ofList (read.reverse ++ cs), rest) := by
  induction cs generalizing read with
  | nil => simp [readText, Units.settle]
  | cons c cs ih =>
    rw [List.flatMap_cons, List.append_assoc, readText_escapedChar read c (by simp), ih]
    simp

theorem readText_key (key : String) (rest : List Char) :
    readText ⟨[], none⟩ (key.toList.flatMap escapedChar ++ '"' :: rest) = .ok (key, rest) := by
  have hread := readText_textChars [] key.toList rest
  simpa using hread

/-- A basic character that is no control character. -/
def Printed (c : Char) : Prop := 32 ≤ c.toNat ∧ c.toNat < 127

instance (c : Char) : Decidable (Printed c) := inferInstanceAs (Decidable (_ ∧ _))

theorem printed_of_all {cs : List Char} (h : (cs.all fun c => decide (Printed c)) = true) :
    ∀ c ∈ cs, Printed c := by
  simpa using h

theorem printed_unitEscape (n : Nat) : ∀ c ∈ unitEscape n, Printed c := by
  have hdigit : ∀ n < 16, Printed (hexDigit n) := by decide
  intro c hc
  simp only [unitEscape, hexDigits, List.nil_append, List.cons_append, List.mem_cons,
    List.not_mem_nil, or_false] at hc
  rcases hc with rfl | rfl | rfl | rfl | rfl | rfl
  · decide
  · decide
  all_goals exact hdigit _ (Nat.mod_lt _ (by decide))

theorem printed_escapedChar (c : Char) : ∀ d ∈ escapedChar c, Printed d := by
  have hshort : ∀ e, Printed e → ∀ d ∈ ['\\', e], Printed d := by
    intro e he d hd
    rcases List.mem_cons.mp hd with rfl | hd
    · decide
    · rw [List.mem_singleton.mp hd]
      exact he
  unfold escapedChar
  split_ifs with hself hback htab hfeed hform hreturn hplain
  · refine hshort c ?_
    rcases hself with rfl | rfl <;> decide
  · exact hshort _ (by decide)
  · exact hshort _ (by decide)
  · exact hshort _ (by decide)
  · exact hshort _ (by decide)
  · exact hshort _ (by decide)
  · intro d hd
    rw [List.mem_singleton.mp hd]
    exact hplain
  · exact printed_unitEscape _
  · intro d hd
    exact (List.mem_append.mp hd).elim (printed_unitEscape _ d) (printed_unitEscape _ d)

theorem printed_textChars (s : String) : ∀ c ∈ textChars s, Printed c := by
  have hquote : Printed '"' := by decide
  intro c hc
  simp only [textChars, List.mem_append, List.mem_cons, List.mem_flatMap, List.not_mem_nil,
    or_false] at hc
  rcases hc with (rfl | ⟨d, -, hd⟩) | rfl
  · exact hquote
  · exact printed_escapedChar d c hd
  · exact hquote

theorem newline_notMem_of_printed {cs : List Char} (h : ∀ c ∈ cs, Printed c) : '\n' ∉ cs := by
  intro hmem
  exact absurd (h _ hmem).1 (by decide)

end Escapes

section Numbers

variable {rest : List Char}

/-- What follows does not go on with a digit. -/
def EndsDigits (rest : List Char) : Prop := ∀ c ∈ rest.head?, isAsciiDigit c = false

/-- What follows does not go on with a number. -/
def EndsNumber (rest : List Char) : Prop :=
  ∀ c ∈ rest.head?, isAsciiDigit c = false ∧ c ≠ '.' ∧ c ≠ 'e' ∧ c ≠ 'E'

theorem EndsNumber.endsDigits (h : EndsNumber rest) : EndsDigits rest := fun c hc => (h c hc).1

theorem endsDigits_cons {c : Char} (h : isAsciiDigit c = false) (rest : List Char) :
    EndsDigits (c :: rest) := by
  intro d hd
  obtain rfl := Option.some.inj hd
  exact h

theorem endsNumber_cons {c : Char}
    (hc : isAsciiDigit c = false ∧ c ≠ '.' ∧ c ≠ 'e' ∧ c ≠ 'E') (rest : List Char) :
    EndsNumber (c :: rest) := by
  intro d hd
  obtain rfl := Option.some.inj hd
  exact hc

theorem takeWhile_digits {digits : List Char} (hdigits : ∀ c ∈ digits, isAsciiDigit c = true)
    (hrest : EndsDigits rest) : (digits ++ rest).takeWhile isAsciiDigit = digits := by
  rw [List.takeWhile_append_of_pos hdigits]
  cases rest with
  | nil => simp
  | cons c rest => simp [hrest c rfl]

theorem isAsciiDigit_of_mem_numeral {n : Nat} {c : Char} (h : c ∈ numeral n) :
    isAsciiDigit c = true :=
  isAsciiDigit_of_isDigit (isDigit_of_mem_numeral h)

/-- A run of digits is read as a whole, unless a zero stands before the others. -/
theorem readNatural?_digits {digits : List Char} (hne : digits ≠ [])
    (hzero : digits.head? ≠ some '0') (hdigits : ∀ c ∈ digits, isAsciiDigit c = true)
    (hrest : EndsDigits rest) : readNatural? (digits ++ rest) = some (digits, rest) := by
  obtain ⟨c, cs, rfl⟩ := List.exists_cons_of_ne_nil hne
  have htake := takeWhile_digits hdigits hrest
  unfold readNatural?
  split
  · next heq => exact absurd (congrArg some (List.cons.inj heq).1) hzero
  · dsimp only
    rw [htake]
    simp

theorem readNatural?_numeral (n : Nat) (hrest : EndsDigits rest) :
    readNatural? (numeral n ++ rest) = some (numeral n, rest) := by
  by_cases hzero : (numeral n).head? = some '0'
  · obtain ⟨cs, hcs⟩ := List.head?_eq_some_iff.mp hzero
    rw [hcs, numeral_eq_zero_cons hcs]
    rfl
  · exact readNatural?_digits Nat.toDigits_ne_nil hzero (fun c => isAsciiDigit_of_mem_numeral) hrest

theorem readFraction_eq (hrest : EndsNumber rest) : readFraction rest = ([], rest) := by
  unfold readFraction
  split
  · exact absurd rfl (hrest '.' rfl).2.1
  · rfl

theorem readPower_eq (hrest : EndsNumber rest) : readPower rest = (none, rest) := by
  unfold readPower
  split
  · next c more =>
    obtain ⟨-, -, hlower, hupper⟩ := hrest c rfl
    rw [if_neg (by simp [hlower, hupper])]
  · rfl

theorem readUnsigned_numeral (negative : Bool) {n : Nat} (hn : (numeral n).length ≤ digitLimit)
    (hrest : EndsNumber rest) :
    readUnsigned negative (numeral n ++ rest) =
      .ok (.int (if negative then -(n : Int) else n), rest) := by
  unfold readUnsigned
  rw [readNatural?_numeral n hrest.endsDigits]
  simp only [readFraction_eq hrest, readPower_eq hrest, digitsValue_numeral]
  simp [Nat.not_lt.mpr hn]

/-- Numbers are read behind their sign: no name of a value begins with a digit. -/
theorem readScalar_signed {negative : Bool} {c : Char} {cs : List Char} {x : Json}
    (hc : isAsciiDigit c = true) (h : readUnsigned negative (c :: cs ++ rest) = .ok (x, rest)) :
    readScalar ((if negative then '-' :: c :: cs else c :: cs) ++ rest) = .ok (x, rest) := by
  have hne : ∀ d : Char, isAsciiDigit d = false → ¬ d = c := by
    rintro d hfalse rfl
    rw [hc] at hfalse
    cases hfalse
  have hminus : c ≠ '-' := Ne.symm (hne '-' (by decide))
  have hnone : (namedValues.find? fun v =>
      v.1.toList.isPrefixOf ((if negative then '-' :: c :: cs else c :: cs) ++ rest)) = none := by
    rw [List.find?_eq_none]
    cases negative <;> simp [namedValues, hne, isAsciiDigit]
  rw [readScalar, hnone]
  cases negative with
  | true => exact h
  | false => simpa [readNumber, hminus] using h

theorem readScalar_wholeText {n : Int} (hn : WithinDigits n) (hrest : EndsNumber rest) :
    readScalar ((wholeText n).toList ++ rest) = .ok (.int n, rest) := by
  have hlength : (numeral n.natAbs).length ≤ digitLimit :=
    (length_numeral_le_digitLimit_iff n).mpr hn
  have hread := readUnsigned_numeral (decide (n < 0)) hlength hrest
  have hvalue : (if decide (n < 0) = true then -(n.natAbs : Int) else n.natAbs) = n := by
    simp only [decide_eq_true_eq]
    split <;> omega
  obtain ⟨c, cs, hcs⟩ : ∃ c cs, numeral n.natAbs = c :: cs :=
    List.exists_cons_of_ne_nil Nat.toDigits_ne_nil
  have hc : isAsciiDigit c = true := isAsciiDigit_of_mem_numeral (n := n.natAbs) (by simp [hcs])
  rw [hvalue, hcs] at hread
  have hscalar := readScalar_signed hc hread
  simp only [decide_eq_true_eq] at hscalar
  rw [wholeText, String.toList_ofList, hcs]
  exact hscalar

theorem printed_of_isAsciiDigit {c : Char} (h : isAsciiDigit c = true) : Printed c := by
  simp only [isAsciiDigit, Bool.and_eq_true, decide_eq_true_eq, Char.le_def] at h
  have hlow : 48 ≤ c.toNat := h.1
  have hhigh : c.toNat ≤ 57 := h.2
  exact ⟨by omega, by omega⟩

theorem printed_wholeText (n : Int) : ∀ c ∈ (wholeText n).toList, Printed c := by
  have hdigits : ∀ c ∈ numeral n.natAbs, Printed c := fun c hc =>
    printed_of_isAsciiDigit (isAsciiDigit_of_mem_numeral hc)
  rw [wholeText, String.toList_ofList]
  split
  · intro c hc
    rcases List.mem_cons.mp hc with rfl | hc
    · decide
    · exact hdigits c hc
  · exact hdigits

end Numbers

section Objects

/-- What opens a value is no blank, and not the end of a list. -/
def OpensValue (cs : List Char) : Prop := ∃ c more, cs = c :: more ∧ isSpace c = false ∧ c ≠ ']'

theorem OpensValue.skipSpace {cs : List Char} (h : OpensValue cs) (rest : List Char) :
    Json.skipSpace (cs ++ rest) = cs ++ rest := by
  obtain ⟨c, more, rfl, hspace, -⟩ := h
  rw [List.cons_append, Json.skipSpace, List.dropWhile_cons, hspace]
  rfl

/-- A value that is read as it was written, in one line of basic characters. -/
structure Readable (x : Json) : Prop where
  value : ∀ fuel rest, EndsNumber rest → readValue (fuel + 1) (lineChars x ++ rest) = .ok (x, rest)
  opens : OpensValue (lineChars x)
  printed : ∀ c ∈ lineChars x, Printed c

variable {rest : List Char}

theorem readable_text (s : String) : Readable (.text s) := by
  refine ⟨fun fuel rest _ => ?_, ⟨'"', _, rfl, by decide, by decide⟩, printed_textChars s⟩
  have hchars : lineChars (.text s) ++ rest =
      '"' :: (s.toList.flatMap escapedChar ++ '"' :: rest) := by
    simp [lineChars, scalarChars, textChars]
  rw [hchars, readValue, readText_key]
  rfl

/-- A character that begins a value without parts that is no text. -/
def OpensScalar (c : Char) : Prop := Printed c ∧ c ∉ [' ', '"', '[', ']', '\x7b']

theorem readable_of_readScalar {x : Json} {first : Char} {more : List Char}
    (hchars : lineChars x = first :: more) (hfirst : OpensScalar first)
    (hprinted : ∀ c ∈ lineChars x, Printed c)
    (hread : ∀ rest, EndsNumber rest → readScalar (lineChars x ++ rest) = .ok (x, rest)) :
    Readable x := by
  obtain ⟨hlow, hnot⟩ := hfirst
  simp only [List.mem_cons, List.not_mem_nil, or_false, not_or] at hnot
  obtain ⟨hblank, hquote, hbracket, hclosing, hbrace⟩ := hnot
  have hspace : isSpace first = false := by
    have hcontrol : ∀ c : Char, c.toNat < 32 → first ≠ c := by
      rintro c hc rfl
      exact absurd hlow.1 (by omega)
    simp [isSpace, hblank, hcontrol '\t' (by decide), hcontrol '\n' (by decide),
      hcontrol '\r' (by decide)]
  refine ⟨fun fuel rest hrest => ?_, ⟨first, more, hchars, hspace, hclosing⟩, hprinted⟩
  have hread := hread rest hrest
  rw [hchars, List.cons_append] at hread ⊢
  rw [readValue.eq_def]
  dsimp only
  split
  · next heq => exact absurd (List.cons.inj heq).1 hquote
  · next heq => exact absurd (List.cons.inj heq).1 hbracket
  · next heq => exact absurd (List.cons.inj heq).1 hbrace
  · exact hread

theorem opensScalar_of_isAsciiDigit {c : Char} (h : isAsciiDigit c = true) : OpensScalar c := by
  refine ⟨printed_of_isAsciiDigit h, ?_⟩
  intro hc
  simp only [List.mem_cons, List.not_mem_nil, or_false] at hc
  rcases hc with rfl | rfl | rfl | rfl | rfl <;> exact absurd h (by decide)

theorem opensScalar_minus : OpensScalar '-' := ⟨by decide, by decide⟩

theorem readable_int {n : Int} (hn : WithinDigits n) : Readable (.int n) := by
  obtain ⟨c, cs, hcs⟩ : ∃ c cs, numeral n.natAbs = c :: cs :=
    List.exists_cons_of_ne_nil Nat.toDigits_ne_nil
  have hc : isAsciiDigit c = true := isAsciiDigit_of_mem_numeral (n := n.natAbs) (by simp [hcs])
  obtain ⟨first, more, hchars, hfirst⟩ : ∃ first more, lineChars (.int n) = first :: more ∧
      OpensScalar first := by
    change ∃ first more, (wholeText n).toList = first :: more ∧ OpensScalar first
    rw [wholeText, String.toList_ofList, hcs]
    split
    · exact ⟨_, _, rfl, opensScalar_minus⟩
    · exact ⟨_, _, rfl, opensScalar_of_isAsciiDigit hc⟩
  exact readable_of_readScalar hchars hfirst (printed_wholeText n)
    fun rest hrest => readScalar_wholeText hn hrest

section Fields

variable {read : List (String × Json)} {key : String} {x : Json} {fuel : Nat}
  {cs more rest tail : List Char}

theorem readFields_last (hkey : readText ⟨[], none⟩ cs = .ok (key, ':' :: more))
    (hx : readValue fuel (skipSpace more) = .ok (x, rest))
    (hend : skipSpace rest = '\x7d' :: tail) :
    readFields (fuel + 1) read ('"' :: cs) = .ok (Catalog.fileIn key x read, tail) := by
  have hcolon : skipSpace (':' :: more) = ':' :: more := rfl
  simp only [readFields, hkey, hcolon, hx, hend]

theorem readFields_next (hkey : readText ⟨[], none⟩ cs = .ok (key, ':' :: more))
    (hx : readValue fuel (skipSpace more) = .ok (x, rest)) (hnext : skipSpace rest = ',' :: tail) :
    readFields (fuel + 1) read ('"' :: cs) =
      readFields fuel (Catalog.fileIn key x read) (skipSpace tail) := by
  have hcolon : skipSpace (':' :: more) = ':' :: more := rfl
  simp only [readFields, hkey, hcolon, hx, hnext]

end Fields

theorem notMem_keys {read fields : List (String × Json)} {key : String} {x : Json}
    (h : ((read ++ (key, x) :: fields).map Prod.fst).Nodup) : key ∉ read.map Prod.fst := by
  rw [List.map_append] at h
  intro hmem
  exact (List.nodup_append.mp h).2.2 key hmem key List.mem_cons_self rfl

/-- Fields are read in the order in which they were written, behind those read before. -/
theorem readFields_lineFields {fields : List (String × Json)} (hne : fields ≠ [])
    (hvalues : ∀ field ∈ fields, Readable field.2) {read : List (String × Json)}
    (hkeys : ((read ++ fields).map Prod.fst).Nodup) {fuel : Nat} (hfuel : fields.length < fuel)
    (rest : List Char) :
    readFields fuel read (lineFields fields ++ '\x7d' :: rest) = .ok (read ++ fields, rest) := by
  induction fields generalizing read fuel with
  | nil => exact absurd rfl hne
  | cons field fields ih =>
    obtain ⟨key, x⟩ := field
    obtain ⟨fuel, rfl⟩ : ∃ k, fuel = k + 2 := ⟨fuel - 2, by rw [List.length_cons] at hfuel; omega⟩
    have hx : Readable x := hvalues _ List.mem_cons_self
    have hnew := notMem_keys hkeys
    cases fields with
    | nil =>
      have hchars : lineFields [(key, x)] ++ '\x7d' :: rest =
          '"' :: (key.toList.flatMap escapedChar ++ '"' :: ':' :: ' ' ::
            (lineChars x ++ '\x7d' :: rest)) := by
        simp [lineFields, textChars]
      have hspace :
          skipSpace (' ' :: (lineChars x ++ '\x7d' :: rest)) = lineChars x ++ '\x7d' :: rest :=
        hx.opens.skipSpace _
      have hvalue := hx.value fuel ('\x7d' :: rest) (endsNumber_cons (by decide) _)
      rw [hchars, readFields_last (readText_key _ _) (hspace ▸ hvalue) rfl,
        Catalog.fileIn_of_notMem hnew]
    | cons next fields =>
      have hchars : lineFields ((key, x) :: next :: fields) ++ '\x7d' :: rest =
          '"' :: (key.toList.flatMap escapedChar ++ '"' :: ':' :: ' ' ::
            (lineChars x ++ ',' :: ' ' :: (lineFields (next :: fields) ++ '\x7d' :: rest))) := by
        simp [lineFields, textChars]
      have hspace : ∀ more, skipSpace (' ' :: (lineChars x ++ more)) = lineChars x ++ more :=
        hx.opens.skipSpace
      have hnext : skipSpace (' ' :: (lineFields (next :: fields) ++ '\x7d' :: rest)) =
          lineFields (next :: fields) ++ '\x7d' :: rest := by
        cases fields <;> rfl
      have hvalue := fun more => hx.value fuel (',' :: more) (endsNumber_cons (by decide) _)
      rw [hchars, readFields_next (readText_key _ _) (hspace _ ▸ hvalue _) rfl]
      change readFields (fuel + 1) (Catalog.fileIn key x read) (skipSpace (' ' :: _)) = _
      rw [hnext, Catalog.fileIn_of_notMem hnew,
        ih (List.cons_ne_nil _ _) (fun field h => hvalues field (List.mem_cons_of_mem _ h))
          (by simpa using hkeys) (by simp only [List.length_cons] at hfuel ⊢; omega)]
      simp

theorem length_le_lineFields (fields : List (String × Json)) :
    fields.length ≤ (lineFields fields).length := by
  induction fields with
  | nil => simp
  | cons field fields ih =>
    cases fields with
    | nil => simp [lineFields, textChars]
    | cons next fields =>
      simp only [lineFields, textChars, List.length_append, List.length_cons] at ih ⊢
      omega

theorem readValue_object {fields : List (String × Json)}
    (hvalues : ∀ field ∈ fields, Readable field.2)
    (hkeys : (fields.map Prod.fst).Nodup) {fuel : Nat} (hfuel : fields.length < fuel)
    (rest : List Char) :
    readValue (fuel + 1) ('\x7b' :: (lineFields fields ++ '\x7d' :: rest)) =
      .ok (.object fields, rest) := by
  rw [readValue]
  cases fields with
  | nil => rfl
  | cons field fields =>
    obtain ⟨more, hmore⟩ : ∃ more, lineFields (field :: fields) = '"' :: more := by
      cases fields <;> exact ⟨_, rfl⟩
    have hspace : skipSpace (lineFields (field :: fields) ++ '\x7d' :: rest) =
        lineFields (field :: fields) ++ '\x7d' :: rest := by rw [hmore]; rfl
    have hfields : readFields fuel [] (lineFields (field :: fields) ++ '\x7d' :: rest) =
        .ok ([] ++ field :: fields, rest) :=
      readFields_lineFields (List.cons_ne_nil _ _) hvalues (by simpa using hkeys) hfuel rest
    rw [hspace]
    split
    · next heq =>
      rw [hmore] at heq
      cases heq
    · rw [hfields]
      rfl

theorem parse_toLine_object {fields : List (String × Json)}
    (hvalues : ∀ field ∈ fields, Readable field.2) (hkeys : (fields.map Prod.fst).Nodup) :
    parse (toLine (.object fields)) = .ok (.object fields) := by
  have hchars : (toLine (.object fields)).toList = '\x7b' :: (lineFields fields ++ ['\x7d']) := by
    simp [toLine, lineChars]
  have hspace : skipSpace ('\x7b' :: (lineFields fields ++ ['\x7d'])) =
      '\x7b' :: (lineFields fields ++ ['\x7d']) := rfl
  have hmark : ¬ ('\x7b' :: (lineFields fields ++ ['\x7d'])).head? = some (Char.ofNat 0xfeff) := by
    simp
  have hlength := length_le_lineFields fields
  have henough : fields.length < 2 * ('\x7b' :: (lineFields fields ++ ['\x7d'])).length + 1 := by
    simp only [List.length_cons, List.length_append]
    omega
  have hread := readValue_object hvalues hkeys henough []
  rw [parse, hchars, if_neg hmark, hspace]
  rw [hread]
  rfl

theorem newline_notMem_lineFields {fields : List (String × Json)}
    (hvalues : ∀ field ∈ fields, Readable field.2) : '\n' ∉ lineFields fields := by
  induction fields with
  | nil => exact List.not_mem_nil
  | cons field fields ih =>
    obtain ⟨key, x⟩ := field
    have hkey := newline_notMem_of_printed (printed_textChars key)
    have hx := newline_notMem_of_printed (hvalues _ List.mem_cons_self).printed
    have hrest := ih fun field h => hvalues field (List.mem_cons_of_mem _ h)
    cases fields with
    | nil => simp [lineFields, hkey, hx]
    | cons next fields => simp [lineFields, hkey, hx, hrest]

end Objects
end Json
end ScriptProfiling
