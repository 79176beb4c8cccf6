import ScriptProfiling.Json.Reading
import ScriptProfiling.Json.Writing
import ScriptProfiling.Proofs.Catalog
import ScriptProfiling.Proofs.Number.Numeral

/-!
# What JSON readers yield and leave

A reader takes from the head of a text and leaves its end. It yields whole numbers within
the limit of digits only, and a run of digits beyond the limit is the one thing that makes
it fail with a fault that is not one of the format.

The three readers call each other with less fuel, so what they yield is shown of all three together
(`ProperReaders`), by induction on the fuel. Whoever reads a line of a trace needs no more: an
entry, a fault of the line, or the long run that ends the reading.
-/
namespace ScriptProfiling

/-- Somewhere in a text there is a run of so many digits, more than a number may have. -/
def LongRun (digits : Nat) (cs : List Char) : Prop :=
  ∃ run, run <:+: cs ∧ run.length = digits ∧ digitLimit < digits ∧ run.all isAsciiDigit = true

theorem LongRun.mono {digits : Nat} {cs ds : List Char} (h : LongRun digits cs) (hcs : cs <:+: ds) :
    LongRun digits ds := by
  obtain ⟨run, hrun, hrest⟩ := h
  exact ⟨run, hrun.trans hcs, hrest⟩

namespace Json

variable {α β : Type}

/-- What a reader of a text may come to: something good and the end of the text, the fault
of a long run in it, or a fault of the format. -/
def Proper (good : α → Prop) (cs : List Char) : Except JsonFault (α × List Char) → Prop
  | .ok (x, rest) => good x ∧ rest <:+ cs
  | .error (.numeralTooLong digits) => LongRun digits cs
  | .error _ => True

theorem writable_int_iff (n : Int) : (Json.int n).writable = true ↔ WithinDigits n := by
  simp only [writable, decide_eq_true_eq, length_numeral_le_digitLimit_iff]

section Proper

variable {good : α → Prop} {cs ds : List Char} {r : Except JsonFault (α × List Char)}

theorem Proper.mono (h : Proper good cs r) (hcs : cs <:+ ds) : Proper good ds r := by
  cases r with
  | ok result => exact ⟨h.1, h.2.trans hcs⟩
  | error e =>
    cases e with
    | numeralTooLong digits => exact LongRun.mono h hcs.isInfix
    | _ => trivial

theorem Proper.map (h : Proper good cs r) {f : α → β} {good' : β → Prop}
    (hf : ∀ x, good x → good' (f x)) : Proper good' cs (r.map fun r => (f r.1, r.2)) := by
  cases r with
  | ok result => exact ⟨hf _ h.1, h.2⟩
  | error e =>
    cases e with
    | numeralTooLong digits => exact h
    | _ => trivial

theorem Proper.fault {e : JsonFault} (h : Proper good cs (.error e)) {good' : β → Prop} :
    Proper good' cs (.error e) := by
  cases e with
  | numeralTooLong digits => exact h
  | _ => trivial

end Proper

theorem skipSpace_suffix (cs : List Char) : skipSpace cs <:+ cs := List.dropWhile_suffix _

theorem suffix_of_skipSpace {cs rest : List Char} {c : Char} (h : skipSpace cs = c :: rest) :
    rest <:+ cs :=
  (List.suffix_cons c rest).trans (h ▸ skipSpace_suffix cs)

theorem proper_readText (u : Units) (cs : List Char) :
    Proper (fun _ => True) cs (readText u cs) := by
  fun_induction readText u cs with
  | case1 => trivial
  | case2 u cs => exact ⟨trivial, List.suffix_cons _ _⟩
  | case3 => trivial
  | case4 u a b c d next cs n hn ih =>
    refine ih.mono ?_
    exact ⟨['\\', 'u', a, b, c, d], rfl⟩
  | case5 => trivial
  | case6 => trivial
  | case7 u c cs _ _ c' hc ih => exact ih.mono ⟨['\\', c], rfl⟩
  | case8 => trivial
  | case9 => trivial
  | case10 u c cs _ _ _ _ _ hc ih => exact ih.mono (List.suffix_cons _ _)

section Numbers

variable (cs : List Char)

theorem readNatural?_eq_some {cs digits rest : List Char}
    (h : readNatural? cs = some (digits, rest)) :
    cs = digits ++ rest ∧ digits.all isAsciiDigit = true := by
  unfold readNatural? at h
  split at h
  · obtain ⟨rfl, rfl⟩ := Prod.mk.inj (Option.some.inj h)
    exact ⟨rfl, by decide⟩
  · dsimp only at h
    split at h
    · cases h
    · obtain ⟨rfl, rfl⟩ := Prod.mk.inj (Option.some.inj h)
      refine ⟨?_, List.all_takeWhile⟩
      exact (List.prefix_iff_eq_append.mp (List.takeWhile_prefix _)).symm

theorem readFraction_suffix : (readFraction cs).2 <:+ cs := by
  unfold readFraction
  split
  · dsimp only
    split
    · exact List.suffix_rfl
    · exact (List.drop_suffix _ _).trans (List.suffix_cons _ _)
  · exact List.suffix_rfl

theorem takeSign_suffix : (takeSign cs).2 <:+ cs := by
  unfold takeSign
  split
  · exact List.suffix_cons _ _
  · exact List.suffix_cons _ _
  · exact List.suffix_rfl

theorem readPower_suffix : (readPower cs).2 <:+ cs := by
  unfold readPower
  split
  · next c more =>
    split
    · dsimp only
      split
      · exact List.suffix_rfl
      · exact ((List.drop_suffix _ _).trans (takeSign_suffix more)).trans (List.suffix_cons _ _)
    · exact List.suffix_rfl
  · exact List.suffix_rfl

theorem proper_readUnsigned (negative : Bool) :
    Proper (writable · = true) cs (readUnsigned negative cs) := by
  unfold readUnsigned
  cases hnatural : readNatural? cs with
  | none => trivial
  | some found =>
    obtain ⟨digits, rest⟩ := found
    obtain ⟨hsplit, hdigits⟩ := readNatural?_eq_some hnatural
    have hrest : (readPower (readFraction rest).2).2 <:+ cs :=
      ((readPower_suffix _).trans (readFraction_suffix rest)).trans ⟨digits, hsplit.symm⟩
    dsimp only
    split
    · split
      · next hlong => exact ⟨digits, ⟨[], rest, by simp [hsplit]⟩, rfl, hlong, hdigits⟩
      · next hshort =>
        have hwithin := withinDigits_digitsValue (Nat.le_of_not_lt hshort)
        refine ⟨?_, hrest⟩
        refine (writable_int_iff _).mpr ?_
        cases negative with
        | true => exact withinDigits_neg hwithin
        | false => exact hwithin
    · exact ⟨rfl, hrest⟩

theorem proper_readNumber : Proper (writable · = true) cs (readNumber cs) := by
  unfold readNumber
  split
  · exact (proper_readUnsigned _ true).mono (List.suffix_cons _ _)
  · exact proper_readUnsigned _ false

theorem proper_readScalar : Proper (writable · = true) cs (readScalar cs) := by
  unfold readScalar
  split
  · next v hv =>
    have hnamed : ∀ v ∈ namedValues, v.2.writable = true := by decide
    exact ⟨hnamed v (List.mem_of_find?_eq_some hv), List.drop_suffix _ _⟩
  · exact proper_readNumber cs

end Numbers

section Containers

theorem allWritable_iff (xs : List Json) :
    allWritable xs = true ↔ ∀ x ∈ xs, x.writable = true := by
  induction xs with
  | nil => simp [allWritable]
  | cons x xs ih => simp [allWritable, ih]

theorem fieldsWritable_iff (fields : List (String × Json)) :
    fieldsWritable fields = true ↔ ∀ field ∈ fields, field.2.writable = true := by
  induction fields with
  | nil => simp [fieldsWritable]
  | cons field fields ih => simp [fieldsWritable, ih]

theorem writable_lookup {fields : List (String × Json)} (h : fieldsWritable fields = true)
    {name : String} {x : Json} (hx : Catalog.lookup name fields = some x) : x.writable = true :=
  (fieldsWritable_iff fields).mp h _ (Catalog.mem_of_lookup hx)

theorem fieldsWritable_fileIn {fields : List (String × Json)} (h : fieldsWritable fields = true)
    (name : String) {x : Json} (hx : x.writable = true) :
    fieldsWritable (Catalog.fileIn name x fields) = true := by
  rw [fieldsWritable_iff] at h ⊢
  intro field hfield
  rcases Catalog.mem_of_mem_fileIn hfield with rfl | hfield
  · exact hx
  · exact h field hfield

end Containers

/-- The three readers that call each other share their fuel, so they are proper together. -/
structure ProperReaders (fuel : Nat) : Prop where
  value : ∀ cs, Proper (writable · = true) cs (readValue fuel cs)
  items : ∀ read cs, allWritable read = true →
    Proper (allWritable · = true) cs (readItems fuel read cs)
  fields : ∀ read cs, fieldsWritable read = true →
    Proper (fieldsWritable · = true) cs (readFields fuel read cs)

namespace ProperReaders

variable {fuel : Nat}

theorem value_succ (h : ProperReaders fuel) (cs : List Char) :
    Proper (writable · = true) cs (readValue (fuel + 1) cs) := by
  unfold readValue
  split
  · next more =>
    have htext : ∀ s : String, (Json.text s).writable = true := fun s => by simp [writable]
    exact ((proper_readText _ more).map fun s _ => htext s).mono (List.suffix_cons _ _)
  · next more =>
    split
    · next rest hspace =>
      exact ⟨by simp [writable, allWritable],
        (suffix_of_skipSpace hspace).trans (List.suffix_cons _ _)⟩
    · have hlist : ∀ xs : List Json, allWritable xs = true → (Json.list xs).writable = true :=
        fun xs hxs => by simpa [writable] using hxs
      exact ((h.items [] _ rfl).map hlist).mono
        ((skipSpace_suffix more).trans (List.suffix_cons _ _))
  · next more =>
    split
    · next rest hspace =>
      exact ⟨by simp [writable, fieldsWritable],
        (suffix_of_skipSpace hspace).trans (List.suffix_cons _ _)⟩
    · have hobject : ∀ fields : List (String × Json), fieldsWritable fields = true →
          (Json.object fields).writable = true := fun fields h => by simpa [writable] using h
      exact ((h.fields [] _ rfl).map hobject).mono
        ((skipSpace_suffix more).trans (List.suffix_cons _ _))
  · exact proper_readScalar _

theorem items_succ (h : ProperReaders fuel) (read : List Json) (cs : List Char)
    (hread : allWritable read = true) :
    Proper (allWritable · = true) cs (readItems (fuel + 1) read cs) := by
  have hfirst := h.value cs
  unfold readItems
  cases hx : readValue fuel cs with
  | error e =>
    rw [hx] at hfirst
    exact Proper.fault hfirst
  | ok result =>
    obtain ⟨x, rest⟩ := result
    rw [hx] at hfirst
    have hall : allWritable (x :: read) = true := by simp [allWritable, hfirst.1, hread]
    dsimp only
    split
    · next rest' hspace =>
      refine ⟨?_, (suffix_of_skipSpace hspace).trans hfirst.2⟩
      rw [allWritable_iff] at hall ⊢
      exact fun y hy => hall y (List.mem_reverse.mp hy)
    · next rest' hspace =>
      exact (h.items _ _ hall).mono ((skipSpace_suffix _).trans
        ((suffix_of_skipSpace hspace).trans hfirst.2))
    · trivial

theorem fields_succ (h : ProperReaders fuel) (read : List (String × Json)) (cs : List Char)
    (hread : fieldsWritable read = true) :
    Proper (fieldsWritable · = true) cs (readFields (fuel + 1) read cs) := by
  unfold readFields
  split
  · next more =>
    have hkey := (proper_readText ⟨[], none⟩ more).mono (List.suffix_cons '"' more)
    cases htext : readText ⟨[], none⟩ more with
    | error e =>
      rw [htext] at hkey
      exact Proper.fault hkey
    | ok result =>
      obtain ⟨key, rest⟩ := result
      rw [htext] at hkey
      dsimp only
      split
      · next rest' hcolon =>
        have hbehind : skipSpace rest' <:+ '"' :: more :=
          (skipSpace_suffix _).trans ((suffix_of_skipSpace hcolon).trans hkey.2)
        have hfirst := (h.value (skipSpace rest')).mono hbehind
        cases hx : readValue fuel (skipSpace rest') with
        | error e =>
          rw [hx] at hfirst
          exact Proper.fault hfirst
        | ok result =>
          obtain ⟨x, last⟩ := result
          rw [hx] at hfirst
          have hfiled := fieldsWritable_fileIn hread key hfirst.1
          dsimp only
          split
          · next hspace => exact ⟨hfiled, (suffix_of_skipSpace hspace).trans hfirst.2⟩
          · next hspace =>
            exact (h.fields _ _ hfiled).mono ((skipSpace_suffix _).trans
              ((suffix_of_skipSpace hspace).trans hfirst.2))
          · trivial
      · trivial
  · trivial

end ProperReaders

theorem properReaders (fuel : Nat) : ProperReaders fuel := by
  induction fuel with
  | zero => exact ⟨fun _ => trivial, fun _ _ _ => trivial, fun _ _ _ => trivial⟩
  | succ fuel ih => exact ⟨ih.value_succ, ih.items_succ, ih.fields_succ⟩

/-- A text that is read gives a value that can be written. The one fault that is not of the
format comes from a run of digits beyond the limit. -/
theorem parse_cases (s : String) :
    (∃ x, parse s = .ok x ∧ x.writable = true) ∨
    (∃ digits, parse s = .error (.numeralTooLong digits) ∧ LongRun digits s.toList) ∨
    ∃ e, parse s = .error e ∧ ∀ digits, e ≠ .numeralTooLong digits := by
  have hvalue := ((properReaders (2 * s.toList.length + 2)).value (skipSpace s.toList)).mono
    (skipSpace_suffix _)
  unfold parse
  dsimp only
  split
  · exact Or.inr (Or.inr ⟨_, rfl, by simp⟩)
  · cases hx : readValue (2 * s.toList.length + 2) (skipSpace s.toList) with
    | error e =>
      rw [hx] at hvalue
      cases e with
      | numeralTooLong digits => exact Or.inr (Or.inl ⟨digits, rfl, hvalue⟩)
      | _ => exact Or.inr (Or.inr ⟨_, rfl, by simp⟩)
    | ok result =>
      obtain ⟨x, rest⟩ := result
      rw [hx] at hvalue
      dsimp only
      split
      · exact Or.inl ⟨x, rfl, hvalue.1⟩
      · exact Or.inr (Or.inr ⟨_, rfl, by simp⟩)

end Json
end ScriptProfiling
