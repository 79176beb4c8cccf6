import ScriptProfiling.Proofs.Json.Float

/-!
# What is written over several lines is read again

The lists and objects of a value lie one in another, each with its own indent. A value is read from
its block at every depth if its parts are, so by induction on the value every block is read back.

Fuel is counted in characters: each part of a block is shorter than the block, so what is enough for
the whole is enough for its parts. Names must be distinct, since an object read from two fields of
one name has the last of them only.
-/
namespace ScriptProfiling
namespace Json

/-- No object within the value has two fields of one name. -/
inductive KeysDistinct : Json → Prop
  | null : KeysDistinct .null
  | bool (b : Bool) : KeysDistinct (.bool b)
  | int (n : Int) : KeysDistinct (.int n)
  | float (x : Binary64) : KeysDistinct (.float x)
  | text (s : String) : KeysDistinct (.text s)
  | list {xs : List Json} (items : ∀ x ∈ xs, KeysDistinct x) : KeysDistinct (.list xs)
  | object {fields : List (String × Json)} (keys : (fields.map Prod.fst).Nodup)
      (values : ∀ field ∈ fields, KeysDistinct field.2) : KeysDistinct (.object fields)

section Lines

theorem skipSpace_newLine (depth : Nat) (cs : List Char) :
    skipSpace (newLine depth ++ cs) = skipSpace cs := by
  have hblank : ∀ c ∈ newLine depth, isSpace c = true := by
    intro c hc
    rcases List.mem_cons.mp hc with rfl | hc
    · rfl
    · rw [(List.mem_replicate.mp hc).2]
      rfl
  exact List.dropWhile_append_of_pos hblank

theorem endsNumber_newLine (depth : Nat) (rest : List Char) : EndsNumber (newLine depth ++ rest) :=
  endsNumber_cons (by decide) _

/-- A character of a block: a basic one, or the end of a line. -/
def BlockChar (c : Char) : Prop := Printed c ∨ c = '\n'

theorem blockChar_newLine (depth : Nat) : ∀ c ∈ newLine depth, BlockChar c := by
  intro c hc
  rcases List.mem_cons.mp hc with rfl | hc
  · exact Or.inr rfl
  · rw [(List.mem_replicate.mp hc).2]
    exact Or.inl (by decide)

variable {first last : Char} {inner : List Char}

theorem blockChar_enclosed (hfirst : Printed first) (hlast : Printed last)
    (hinner : ∀ c ∈ inner, BlockChar c) (depth : Nat) :
    ∀ c ∈ first :: (inner ++ (newLine depth ++ [last])), BlockChar c := by
  simp only [List.forall_mem_cons, List.forall_mem_append]
  exact ⟨Or.inl hfirst, hinner, blockChar_newLine depth, Or.inl hlast, by simp⟩

end Lines

section Parts

variable {x : Json} {read : List Json} {fuel : Nat} {cs rest tail : List Char}

theorem readItems_last (hx : readValue fuel cs = .ok (x, rest))
    (hend : skipSpace rest = ']' :: tail) :
    readItems (fuel + 1) read cs = .ok (read.reverse ++ [x], tail) := by
  simp only [readItems, hx, hend, List.reverse_cons]

theorem readItems_next (hx : readValue fuel cs = .ok (x, rest))
    (hnext : skipSpace rest = ',' :: tail) :
    readItems (fuel + 1) read cs = readItems fuel (x :: read) (skipSpace tail) := by
  simp only [readItems, hx, hnext]

theorem readValue_items (h : OpensValue (skipSpace cs)) :
    readValue (fuel + 1) ('[' :: cs) =
      (readItems fuel [] (skipSpace cs)).map fun r => (.list r.1, r.2) := by
  obtain ⟨c, more, hcs, -, hc⟩ := h
  rw [readValue, hcs]
  split
  · next heq => exact absurd (List.cons.inj heq).1 hc
  · rfl

end Parts

/-- A value that is read from its block at every depth, with fuel for each of its characters. -/
structure ReadsBack (x : Json) : Prop where
  value : ∀ depth fuel rest, (blockChars depth x).length ≤ fuel → EndsNumber rest →
    readValue (fuel + 1) (blockChars depth x ++ rest) = .ok (x, rest)
  opens : ∀ depth, OpensValue (blockChars depth x)
  chars : ∀ depth, ∀ c ∈ blockChars depth x, BlockChar c

theorem Readable.readsBack {x : Json} (h : Readable x)
    (hchars : ∀ depth, blockChars depth x = lineChars x) : ReadsBack x := by
  refine ⟨fun depth fuel rest _ hrest => ?_, fun depth => ?_, fun depth c hc => ?_⟩
  · rw [hchars]
    exact h.value fuel rest hrest
  · rw [hchars]
    exact h.opens
  · rw [hchars] at hc
    exact Or.inl (h.printed c hc)

section Lists

variable (depth : Nat) (x : Json) (xs : List Json)

theorem blockItems_cons :
    ∃ more, blockItems depth (x :: xs) = newLine depth ++ (blockChars depth x ++ more) := by
  cases xs with
  | nil => exact ⟨[], by simp [blockItems]⟩
  | cons next xs => exact ⟨',' :: blockItems depth (next :: xs), by simp [blockItems]⟩

theorem length_lt_blockItems :
    (blockChars depth x).length < (blockItems depth (x :: xs)).length := by
  obtain ⟨more, hmore⟩ := blockItems_cons depth x xs
  simp only [hmore, newLine, List.length_append, List.length_cons]
  omega

variable {x xs}

theorem opensValue_blockItems (hx : ReadsBack x) (rest : List Char) :
    OpensValue (skipSpace (blockItems depth (x :: xs) ++ rest)) := by
  obtain ⟨more, hmore⟩ := blockItems_cons depth x xs
  obtain ⟨c, cs, hcs, hspace, hc⟩ := hx.opens depth
  rw [hmore, List.append_assoc, skipSpace_newLine, List.append_assoc, (hx.opens depth).skipSpace]
  exact ⟨c, cs ++ (more ++ rest), by rw [hcs, List.cons_append], hspace, hc⟩

/-- Items are read one after another, behind those read before. -/
theorem readItems_blockItems (hne : xs ≠ []) (hitems : ∀ x ∈ xs, ReadsBack x) (read : List Json)
    {fuel : Nat} (hfuel : (blockItems depth xs).length < fuel) (outer : Nat) (rest : List Char) :
    readItems fuel read (skipSpace (blockItems depth xs ++ (newLine outer ++ ']' :: rest))) =
      .ok (read.reverse ++ xs, rest) := by
  induction xs generalizing read fuel with
  | nil => exact absurd rfl hne
  | cons x xs ih =>
    have hx : ReadsBack x := hitems x List.mem_cons_self
    have hless := length_lt_blockItems depth x xs
    obtain ⟨fuel, rfl⟩ : ∃ k, fuel = k + 2 := ⟨fuel - 2, by omega⟩
    have hlength : (blockChars depth x).length ≤ fuel := by omega
    cases xs with
    | nil =>
      have hend : skipSpace (newLine outer ++ ']' :: rest) = ']' :: rest := skipSpace_newLine _ _
      rw [blockItems, List.append_assoc, skipSpace_newLine, (hx.opens depth).skipSpace]
      exact readItems_last (hx.value depth fuel _ hlength (endsNumber_newLine _ _)) hend
    | cons next xs =>
      have hchars : blockItems depth (x :: next :: xs) ++ (newLine outer ++ ']' :: rest) =
          newLine depth ++ (blockChars depth x ++
            ',' :: (blockItems depth (next :: xs) ++ (newLine outer ++ ']' :: rest))) := by
        simp [blockItems]
      have hrest : (blockItems depth (next :: xs)).length < fuel + 1 := by
        simp only [blockItems, newLine, List.length_append, List.length_cons] at hfuel ⊢
        omega
      have hvalue := hx.value depth fuel (',' :: (blockItems depth (next :: xs) ++
        (newLine outer ++ ']' :: rest))) hlength (endsNumber_cons (by decide) _)
      rw [hchars, skipSpace_newLine, (hx.opens depth).skipSpace, readItems_next hvalue rfl,
        ih (List.cons_ne_nil _ _) (fun y hy => hitems y (List.mem_cons_of_mem _ hy)) (x :: read)
          hrest]
      simp

theorem chars_blockItems (hitems : ∀ x ∈ xs, ReadsBack x) :
    ∀ c ∈ blockItems depth xs, BlockChar c := by
  induction xs with
  | nil => exact List.forall_mem_nil _
  | cons x xs ih =>
    have hx : ∀ c ∈ newLine depth ++ blockChars depth x, BlockChar c :=
      List.forall_mem_append.mpr
        ⟨blockChar_newLine depth, (hitems x List.mem_cons_self).chars depth⟩
    cases xs with
    | nil => exact hx
    | cons next xs =>
      have hcomma : BlockChar ',' := Or.inl (by decide)
      have hrest := ih fun y hy => hitems y (List.mem_cons_of_mem _ hy)
      rw [blockItems]
      · exact List.forall_mem_append.mpr ⟨hx, List.forall_mem_cons.mpr ⟨hcomma, hrest⟩⟩
      · simp

theorem readsBack_list (hitems : ∀ x ∈ xs, ReadsBack x) : ReadsBack (.list xs) := by
  cases xs with
  | nil =>
    exact ⟨fun depth fuel rest _ _ => rfl, fun depth => ⟨'[', _, rfl, by decide, by decide⟩,
      fun depth c hc => Or.inl (printed_of_all rfl c hc)⟩
  | cons x xs =>
    have hchars : ∀ depth, blockChars depth (.list (x :: xs)) =
        '[' :: (blockItems (depth + 1) (x :: xs) ++ (newLine depth ++ [']'])) := by
      simp [blockChars]
    refine ⟨fun depth fuel rest hfuel _ => ?_, fun depth => ?_, fun depth => ?_⟩
    · have hlength : (blockItems (depth + 1) (x :: xs)).length < fuel := by
        simp only [hchars, List.length_cons, List.length_append] at hfuel
        omega
      have hread := readItems_blockItems (depth + 1) (List.cons_ne_nil x xs) hitems [] hlength depth
        rest
      have hmore : blockChars depth (.list (x :: xs)) ++ rest =
          '[' :: (blockItems (depth + 1) (x :: xs) ++ (newLine depth ++ ']' :: rest)) := by
        simp [hchars]
      rw [hmore, readValue_items (opensValue_blockItems _ (hitems x List.mem_cons_self) _), hread]
      rfl
    · exact ⟨_, _, hchars depth, by decide, by decide⟩
    · rw [hchars]
      exact blockChar_enclosed (by decide) (by decide) (chars_blockItems (depth + 1) hitems) depth

end Lists

section Objects

variable (depth : Nat) (key : String) (x : Json) (fields : List (String × Json))

theorem blockFields_cons : ∃ more, blockFields depth ((key, x) :: fields) = newLine depth ++
    '"' :: (key.toList.flatMap escapedChar ++
      '"' :: ':' :: ' ' :: (blockChars depth x ++ more)) := by
  cases fields with
  | nil => exact ⟨[], by simp [blockFields, textChars]⟩
  | cons next fields =>
    exact ⟨',' :: blockFields depth (next :: fields), by simp [blockFields, textChars]⟩

theorem length_lt_blockFields :
    (blockChars depth x).length < (blockFields depth ((key, x) :: fields)).length := by
  obtain ⟨more, hmore⟩ := blockFields_cons depth key x fields
  simp only [hmore, newLine, List.length_append, List.length_cons]
  omega

variable {key x fields}

theorem readFields_blockFields (hne : fields ≠ []) (hvalues : ∀ field ∈ fields, ReadsBack field.2)
    {read : List (String × Json)} (hkeys : ((read ++ fields).map Prod.fst).Nodup) {fuel : Nat}
    (hfuel : (blockFields depth fields).length < fuel) (outer : Nat) (rest : List Char) :
    readFields fuel read
        (skipSpace (blockFields depth fields ++ (newLine outer ++ '\x7d' :: rest))) =
      .ok (read ++ fields, rest) := by
  induction fields generalizing read fuel with
  | nil => exact absurd rfl hne
  | cons field fields ih =>
    obtain ⟨key, x⟩ := field
    have hx : ReadsBack x := hvalues _ List.mem_cons_self
    have hnew := notMem_keys hkeys
    have hspace : ∀ more, skipSpace (' ' :: (blockChars depth x ++ more)) =
        blockChars depth x ++ more := (hx.opens depth).skipSpace
    have hless := length_lt_blockFields depth key x fields
    obtain ⟨fuel, rfl⟩ : ∃ k, fuel = k + 2 := ⟨fuel - 2, by omega⟩
    have hlength : (blockChars depth x).length ≤ fuel := by omega
    cases fields with
    | nil =>
      have hend : skipSpace (newLine outer ++ '\x7d' :: rest) = '\x7d' :: rest :=
        skipSpace_newLine _ _
      have hchars : blockFields depth [(key, x)] ++ (newLine outer ++ '\x7d' :: rest) =
          newLine depth ++ ('"' :: (key.toList.flatMap escapedChar ++ '"' :: ':' :: ' ' ::
            (blockChars depth x ++ (newLine outer ++ '\x7d' :: rest)))) := by
        simp [blockFields, textChars]
      have hvalue := hx.value depth fuel _ hlength (endsNumber_newLine outer ('\x7d' :: rest))
      rw [← hspace] at hvalue
      rw [hchars, skipSpace_newLine, ← Catalog.fileIn_of_notMem hnew]
      exact readFields_last (readText_key _ _) hvalue hend
    | cons next fields =>
      have hchars : blockFields depth ((key, x) :: next :: fields) ++
          (newLine outer ++ '\x7d' :: rest) =
          newLine depth ++ ('"' :: (key.toList.flatMap escapedChar ++ '"' :: ':' :: ' ' ::
            (blockChars depth x ++ ',' ::
              (blockFields depth (next :: fields) ++ (newLine outer ++ '\x7d' :: rest))))) := by
        simp [blockFields, textChars]
      have hrest : (blockFields depth (next :: fields)).length < fuel + 1 := by
        simp only [blockFields, newLine, List.length_append, List.length_cons] at hfuel ⊢
        omega
      have hvalue := hx.value depth fuel (',' :: (blockFields depth (next :: fields) ++
        (newLine outer ++ '\x7d' :: rest))) hlength (endsNumber_cons (by decide) _)
      rw [← hspace] at hvalue
      rw [hchars, skipSpace_newLine]
      refine (readFields_next (readText_key _ _) hvalue rfl).trans ?_
      rw [Catalog.fileIn_of_notMem hnew, ih (List.cons_ne_nil _ _)
        (fun field h => hvalues field (List.mem_cons_of_mem _ h)) (by simpa using hkeys) hrest]
      simp

theorem chars_blockFields (hvalues : ∀ field ∈ fields, ReadsBack field.2) :
    ∀ c ∈ blockFields depth fields, BlockChar c := by
  induction fields with
  | nil => exact List.forall_mem_nil _
  | cons field fields ih =>
    obtain ⟨key, x⟩ := field
    have hpair : ∀ c ∈ newLine depth ++ textChars key ++ ':' :: ' ' :: blockChars depth x,
        BlockChar c := by
      simp only [List.forall_mem_append, List.forall_mem_cons]
      exact ⟨⟨blockChar_newLine depth, fun c hc => Or.inl (printed_textChars key c hc)⟩,
        Or.inl (by decide), Or.inl (by decide), (hvalues _ List.mem_cons_self).chars depth⟩
    cases fields with
    | nil => exact hpair
    | cons next fields =>
      have hrest := ih fun field h => hvalues field (List.mem_cons_of_mem _ h)
      have hchars : blockFields depth ((key, x) :: next :: fields) =
          newLine depth ++ textChars key ++ ':' :: ' ' :: blockChars depth x ++
            ',' :: blockFields depth (next :: fields) := by
        simp [blockFields]
      rw [hchars]
      exact List.forall_mem_append.mpr ⟨hpair, List.forall_mem_cons.mpr ⟨Or.inl (by decide), hrest⟩⟩

theorem readsBack_object (hkeys : (fields.map Prod.fst).Nodup)
    (hvalues : ∀ field ∈ fields, ReadsBack field.2) : ReadsBack (.object fields) := by
  cases fields with
  | nil =>
    exact ⟨fun depth fuel rest _ _ => rfl, fun depth => ⟨'\x7b', _, rfl, by decide, by decide⟩,
      fun depth c hc => Or.inl (printed_of_all rfl c hc)⟩
  | cons field fields =>
    have hchars : ∀ depth, blockChars depth (.object (field :: fields)) =
        '\x7b' :: (blockFields (depth + 1) (field :: fields) ++ (newLine depth ++ ['\x7d'])) := by
      simp [blockChars]
    refine ⟨fun depth fuel rest hfuel _ => ?_, fun depth => ?_, fun depth => ?_⟩
    · have hlength : (blockFields (depth + 1) (field :: fields)).length < fuel := by
        simp only [hchars, List.length_cons, List.length_append] at hfuel
        omega
      have hread : readFields fuel [] (skipSpace (blockFields (depth + 1) (field :: fields) ++
          (newLine depth ++ '\x7d' :: rest))) = .ok (field :: fields, rest) :=
        readFields_blockFields (depth + 1) (List.cons_ne_nil field fields) hvalues hkeys hlength
          depth rest
      have hmore : blockChars depth (.object (field :: fields)) ++ rest = '\x7b' ::
          (blockFields (depth + 1) (field :: fields) ++ (newLine depth ++ '\x7d' :: rest)) := by
        simp [hchars]
      obtain ⟨more, hopens⟩ : ∃ more, skipSpace (blockFields (depth + 1) (field :: fields) ++
          (newLine depth ++ '\x7d' :: rest)) = '"' :: more := by
        obtain ⟨more, hfirst⟩ := blockFields_cons (depth + 1) field.1 field.2 fields
        rw [hfirst, List.append_assoc, skipSpace_newLine]
        exact ⟨_, rfl⟩
      rw [hmore, readValue]
      rw [hopens] at hread ⊢
      split
      · next heq => cases heq
      · rw [hread]
        rfl
    · exact ⟨_, _, hchars depth, by decide, by decide⟩
    · rw [hchars]
      exact blockChar_enclosed (by decide) (by decide) (chars_blockFields (depth + 1) hvalues) depth

end Objects

section Values

variable {x : Json} {text : String}

/-- Whatever its nesting, a value with distinct names is read from its block. -/
theorem readsBack (h : KeysDistinct x) (hx : x.writable = true) : ReadsBack x := by
  induction h with
  | null => exact readable_null.readsBack fun _ => rfl
  | bool b => exact (readable_bool b).readsBack fun _ => rfl
  | int n => exact (readable_int ((writable_int_iff n).mp hx)).readsBack fun _ => rfl
  | float x => exact (readable_float x).readsBack fun _ => rfl
  | text s => exact (readable_text s).readsBack fun _ => rfl
  | list items ih =>
    have hall := (allWritable_iff _).mp hx
    exact readsBack_list fun x hmem => ih x hmem (hall x hmem)
  | object keys values ih =>
    have hall := (fieldsWritable_iff _).mp hx
    exact readsBack_object keys fun field hmem => ih field hmem (hall field hmem)

theorem toBlock_eq_ok (h : toBlock x = .ok text) :
    x.writable = true ∧ text = String.ofList (blockChars 0 x) := by
  unfold toBlock at h
  split at h
  · next hx => exact ⟨hx, (Except.ok.inj h).symm⟩
  · cases h

theorem chars_toBlock (h : KeysDistinct x) (htext : toBlock x = .ok text) :
    ∀ c ∈ text.toList, BlockChar c := by
  obtain ⟨hx, rfl⟩ := toBlock_eq_ok htext
  rw [String.toList_ofList]
  exact (readsBack h hx).chars 0

theorem parse_toBlock (h : KeysDistinct x) (htext : toBlock x = .ok text) : parse text = .ok x := by
  obtain ⟨hx, rfl⟩ := toBlock_eq_ok htext
  have hback := readsBack h hx
  have hspace : skipSpace (blockChars 0 x) = blockChars 0 x := by
    simpa using (hback.opens 0).skipSpace []
  have hmark : (blockChars 0 x).head? ≠ some (Char.ofNat 0xfeff) := by
    intro hhead
    have hno : ¬ BlockChar (Char.ofNat 0xfeff) := by
      rintro (hprinted | hline)
      · exact absurd hprinted (by decide)
      · exact absurd hline (by decide)
    exact hno (hback.chars 0 _ (List.mem_of_head? hhead))
  have hends : EndsNumber [] := fun c hc => by cases hc
  have hread := hback.value 0 (2 * (blockChars 0 x).length + 1) [] (by omega) hends
  rw [List.append_nil] at hread
  rw [parse, String.toList_ofList, if_neg hmark, hspace, hread]
  rfl

end Values

end Json
end ScriptProfiling
