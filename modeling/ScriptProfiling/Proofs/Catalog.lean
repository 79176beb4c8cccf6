import ScriptProfiling.Catalog
import Mathlib.Data.List.Induction

/-!
# Catalogs as tables of a function

Entries that list a function's values at some keys are looked up, and changed at one
key, as the function is.

A catalog is a list of entries with distinct keys, in the order in which the keys were first filed.
Filing under a key that is there replaces the value and keeps the place, so two catalogs are the
same if their keys come in the same order and each has the same value.
-/
namespace ScriptProfiling
namespace Catalog

variable {κ β : Type}

@[ext] theorem ext {c d : Catalog κ β} (h : c.entries = d.entries) : c = d := by
  cases c
  cases d
  simpa using h

variable [DecidableEq κ]

theorem lookup_map (f : κ → β) (key : κ) (ks : List κ) :
    lookup key (ks.map fun k => (k, f k)) = if key ∈ ks then some (f key) else none := by
  induction ks with
  | nil => rfl
  | cons k ks ih =>
    by_cases h : k = key
    · simp [lookup, h]
    · simp [lookup, h, ih, Ne.symm h]

theorem mem_map_fst_of_lookup {key : κ} {value : β} {es : List (κ × β)}
    (h : lookup key es = some value) : key ∈ es.map Prod.fst := by
  induction es with
  | nil => simp [lookup] at h
  | cons e es ih =>
    by_cases hkey : e.1 = key
    · simp [hkey]
    · rw [lookup, if_neg hkey] at h
      exact List.mem_cons_of_mem _ (ih h)

theorem mem_keys_of_get? {c : Catalog κ β} {key : κ} {value : β}
    (h : c.get? key = some value) : key ∈ c.keys :=
  mem_map_fst_of_lookup h

theorem lookup_eq_none_iff {key : κ} {es : List (κ × β)} :
    lookup key es = none ↔ key ∉ es.map Prod.fst := by
  induction es with
  | nil => simp [lookup]
  | cons e es ih =>
    by_cases hkey : e.1 = key
    · simp [lookup, hkey]
    · rw [lookup, if_neg hkey, List.map_cons, List.mem_cons, not_or, ih]
      exact (and_iff_right (Ne.symm hkey)).symm

theorem get?_eq_none_iff {c : Catalog κ β} {key : κ} : c.get? key = none ↔ key ∉ c.keys :=
  lookup_eq_none_iff

theorem mem_keys_iff {c : Catalog κ β} {key : κ} :
    key ∈ c.keys ↔ ∃ value, c.get? key = some value := by
  rw [← Option.isSome_iff_exists, Option.isSome_iff_ne_none, ne_eq, get?_eq_none_iff, not_not]

theorem entries_eq_of_lookup {es fs : List (κ × β)} (hfst : es.map Prod.fst = fs.map Prod.fst)
    (hnodup : (es.map Prod.fst).Nodup) (h : ∀ key, lookup key es = lookup key fs) : es = fs := by
  induction es generalizing fs with
  | nil => exact (List.map_eq_nil_iff.mp hfst.symm).symm
  | cons e es ih =>
    cases fs with
    | nil => cases hfst
    | cons first fs =>
      obtain ⟨hhead, htail⟩ := List.cons.inj hfst
      obtain ⟨hfresh, hrest⟩ := List.nodup_cons.mp hnodup
      have hvalue : e.2 = first.2 := by
        simpa [lookup, ← hhead] using h e.1
      have hothers : ∀ key, lookup key es = lookup key fs := by
        intro key
        by_cases hkey : e.1 = key
        · obtain rfl := hkey
          rw [lookup_eq_none_iff.mpr hfresh, lookup_eq_none_iff.mpr (htail ▸ hfresh)]
        · simpa [lookup, hkey, ← hhead] using h key
      rw [ih htail hrest hothers, Prod.ext hhead hvalue]

/-- Catalogs are told by their keys in order and by what is found under each. -/
theorem eq_of_get? {c d : Catalog κ β} (hkeys : c.keys = d.keys)
    (h : ∀ key, c.get? key = d.get? key) : c = d :=
  Catalog.ext (entries_eq_of_lookup hkeys c.nodup h)

theorem fileIn_map (f : κ → β) (key : κ) (value : β) {ks : List κ} (h : ks.Nodup) :
    fileIn key value (ks.map fun k => (k, f k)) =
      (if key ∈ ks then ks else ks ++ [key]).map
        fun k => (k, if k = key then value else f k) := by
  induction ks with
  | nil => simp [fileIn]
  | cons k ks ih =>
    obtain ⟨hk, hks⟩ := List.nodup_cons.mp h
    by_cases hkey : k = key
    · subst hkey
      have hrest : (ks.map fun j => (j, f j)) =
          ks.map fun j => (j, if j = k then value else f j) := by
        apply List.map_congr_left
        intro j hj
        have hne : j ≠ k := fun e => hk (e ▸ hj)
        simp [hne]
      simp [fileIn, hrest]
    · have hne : key ≠ k := Ne.symm hkey
      simp only [List.map_cons, fileIn, hkey, if_false, ih hks, List.mem_cons, hne, false_or]
      split <;> simp [hkey]

theorem fileIn_of_notMem {key : κ} {value : β} {es : List (κ × β)}
    (h : key ∉ es.map Prod.fst) : fileIn key value es = es ++ [(key, value)] := by
  induction es with
  | nil => rfl
  | cons e es ih =>
    rw [List.map_cons, List.mem_cons, not_or] at h
    rw [fileIn, if_neg (Ne.symm h.1), ih h.2]
    rfl

theorem fileIn_fileIn (key : κ) (first second : β) (es : List (κ × β)) :
    fileIn key second (fileIn key first es) = fileIn key second es := by
  induction es with
  | nil => simp [fileIn]
  | cons e es ih =>
    by_cases h : e.1 = key
    · simp [fileIn, h]
    · simp [fileIn, h, ih]

theorem put_put (c : Catalog κ β) (key : κ) (first second : β) :
    (c.put key first).put key second = c.put key second :=
  Catalog.ext (fileIn_fileIn key first second c.entries)

theorem fileIn_of_lookup {key : κ} {value : β} {es : List (κ × β)}
    (h : lookup key es = some value) : fileIn key value es = es := by
  induction es with
  | nil => simp [lookup] at h
  | cons e es ih =>
    by_cases hkey : e.1 = key
    · rw [lookup, if_pos hkey] at h
      simp [fileIn, ← hkey, ← Option.some.inj h]
    · rw [lookup, if_neg hkey] at h
      simp [fileIn, hkey, ih h]

theorem put_of_get? {c : Catalog κ β} {key : κ} {value : β} (h : c.get? key = some value) :
    c.put key value = c :=
  Catalog.ext (fileIn_of_lookup h)

theorem mem_of_lookup {key : κ} {value : β} {es : List (κ × β)}
    (h : lookup key es = some value) : (key, value) ∈ es := by
  induction es with
  | nil => cases h
  | cons e es ih =>
    by_cases hkey : e.1 = key
    · rw [lookup, if_pos hkey] at h
      obtain rfl := Option.some.inj h
      obtain rfl := hkey
      exact List.mem_cons_self
    · rw [lookup, if_neg hkey] at h
      exact List.mem_cons_of_mem _ (ih h)

theorem lookup_of_mem {key : κ} {value : β} {es : List (κ × β)} (hnodup : (es.map Prod.fst).Nodup)
    (h : (key, value) ∈ es) : lookup key es = some value := by
  induction es with
  | nil => cases h
  | cons e es ih =>
    obtain ⟨he, hes⟩ := List.nodup_cons.mp hnodup
    rcases List.mem_cons.mp h with rfl | h
    · exact if_pos rfl
    · have hkey : e.1 ≠ key := by
        rintro rfl
        exact he (List.mem_map.mpr ⟨_, h, rfl⟩)
      rw [lookup, if_neg hkey]
      exact ih hes h

theorem mem_values_of_get? {c : Catalog κ β} {key : κ} {value : β} (h : c.get? key = some value) :
    value ∈ c.values :=
  List.mem_map_of_mem (f := Prod.snd) (mem_of_lookup h)

theorem mem_of_mem_fileIn {key : κ} {value : β} {e : κ × β} {es : List (κ × β)}
    (h : e ∈ fileIn key value es) : e = (key, value) ∨ e ∈ es := by
  induction es with
  | nil => exact Or.inl (List.mem_singleton.mp h)
  | cons first es ih =>
    by_cases hkey : first.1 = key
    · rw [fileIn, if_pos hkey] at h
      exact (List.mem_cons.mp h).imp id (List.mem_cons_of_mem _)
    · rw [fileIn, if_neg hkey] at h
      rcases List.mem_cons.mp h with rfl | h
      · exact Or.inr List.mem_cons_self
      · exact (ih h).imp id (List.mem_cons_of_mem _)

theorem mem_values_put {c : Catalog κ β} {key : κ} {value v : β}
    (h : v ∈ (c.put key value).values) : v = value ∨ v ∈ c.values := by
  obtain ⟨e, he, rfl⟩ := List.mem_map.mp h
  rcases mem_of_mem_fileIn he with rfl | he
  · exact Or.inl rfl
  · exact Or.inr (List.mem_map_of_mem he)

/-- Each entry keeps its place, also the one that a value takes. -/
theorem getElem?_fileIn {R : β → β → Prop} (hrefl : ∀ v, R v v) {key : κ} {value : β}
    {es : List (κ × β)} (h : ∀ v, lookup key es = some v → R v value) {i : Nat} {e : κ × β}
    (he : es[i]? = some e) : ∃ e', (fileIn key value es)[i]? = some e' ∧ R e.2 e'.2 := by
  induction es generalizing i with
  | nil => cases he
  | cons first es ih =>
    by_cases hkey : first.1 = key
    · rw [fileIn, if_pos hkey]
      cases i with
      | zero =>
        obtain rfl := Option.some.inj he
        exact ⟨_, rfl, h first.2 (by rw [lookup, if_pos hkey])⟩
      | succ i => exact ⟨e, he, hrefl e.2⟩
    · rw [fileIn, if_neg hkey]
      cases i with
      | zero =>
        obtain rfl := Option.some.inj he
        exact ⟨_, rfl, hrefl first.2⟩
      | succ i =>
        rw [lookup, if_neg hkey] at h
        exact ih h he

theorem getElem?_values_put {R : β → β → Prop} (hrefl : ∀ v, R v v) {c : Catalog κ β} {key : κ}
    {value : β} (h : ∀ v, c.get? key = some v → R v value) {i : Nat} {v : β}
    (hv : c.values[i]? = some v) : ∃ v', (c.put key value).values[i]? = some v' ∧ R v v' := by
  rw [values, List.getElem?_map, Option.map_eq_some_iff] at hv
  obtain ⟨e, he, rfl⟩ := hv
  obtain ⟨e', he', hle⟩ := getElem?_fileIn hrefl h he
  refine ⟨e'.2, ?_, hle⟩
  rw [values, List.getElem?_map, Option.map_eq_some_iff]
  exact ⟨e', he', rfl⟩

theorem ofList_append_singleton (es : List (κ × β)) (e : κ × β) :
    ofList (es ++ [e]) = (ofList es).put e.1 e.2 := by
  rw [ofList, ofList, List.foldl_append, List.foldl_cons, List.foldl_nil]

theorem mem_of_get?_ofList {es : List (κ × β)} {key : κ} {value : β}
    (h : (ofList es).get? key = some value) : (key, value) ∈ es := by
  induction es using List.reverseRecOn with
  | nil => cases h
  | append_singleton es e ih =>
    rw [ofList_append_singleton, get?_put] at h
    rw [List.mem_append, List.mem_singleton]
    split at h
    · next hkey => exact Or.inr (Prod.ext hkey.symm (Option.some.inj h).symm)
    · exact Or.inl (ih h)

theorem isSome_get?_ofList {es : List (κ × β)} {key : κ} :
    ((ofList es).get? key).isSome = true ↔ key ∈ es.map Prod.fst := by
  constructor
  · intro hsome
    obtain ⟨value, hvalue⟩ := Option.isSome_iff_exists.mp hsome
    exact List.mem_map_of_mem (mem_of_get?_ofList hvalue)
  · induction es using List.reverseRecOn with
    | nil => intro h; cases h
    | append_singleton es e ih =>
      intro h
      rw [ofList_append_singleton, get?_put]
      split
      · rfl
      · next hne =>
        rw [List.map_append, List.mem_append, List.map_singleton, List.mem_singleton] at h
        exact ih (h.resolve_right (Ne.symm hne))

theorem keys_ofList (es : List (κ × β)) : (ofList es).keys = (es.map Prod.fst).eraseDups := by
  induction es using List.reverseRecOn with
  | nil => rfl
  | append_singleton es e ih =>
    rw [ofList_append_singleton, keys_put, ih, List.map_append, List.map_singleton,
      List.eraseDups_append]
    split
    · next h =>
      rw [List.mem_eraseDups] at h
      simp [List.removeAll, h]
    · next h =>
      rw [List.mem_eraseDups] at h
      simp [List.removeAll, h, List.eraseDups_cons]

theorem get?_ofList (es : List (κ × β)) (key : κ) :
    (ofList es).get? key = ((es.filter (·.1 = key)).getLast?).map Prod.snd := by
  induction es using List.reverseRecOn with
  | nil => rfl
  | append_singleton es e ih =>
    rw [ofList_append_singleton, get?_put, ih, List.filter_append, List.getLast?_append]
    split
    · next h => simp [h]
    · next h => simp [h]

/-- Entries with distinct keys are a catalog as they stand. -/
theorem entries_ofList {es : List (κ × β)} (h : (es.map Prod.fst).Nodup) :
    (ofList es).entries = es := by
  induction es using List.reverseRecOn with
  | nil => rfl
  | append_singleton es e ih =>
    rw [List.map_append, List.nodup_append] at h
    obtain ⟨hes, -, hdisjoint⟩ := h
    have hfresh : e.1 ∉ es.map Prod.fst := fun hmem => hdisjoint e.1 hmem e.1 (by simp) rfl
    rw [ofList_append_singleton]
    change fileIn e.1 e.2 (ofList es).entries = _
    rw [ih hes, fileIn_of_notMem hfresh]

theorem lookup_eq (key : κ) (es : List (κ × β)) : lookup key es = es.lookup key := by
  induction es with
  | nil => rfl
  | cons e es ih =>
    rw [lookup, List.lookup_cons, ih]
    by_cases h : e.1 = key
    · rw [if_pos h, beq_iff_eq.mpr h.symm]
    · rw [if_neg h, beq_eq_false_iff_ne.mpr (Ne.symm h)]

theorem lookup_filter_bne (es : List (κ × β)) (key k : κ) :
    (es.filter (·.1 != key)).lookup k = if k = key then none else es.lookup k := by
  induction es with
  | nil => simp
  | cons e es ih =>
    by_cases hkey : e.1 = key
    · rw [List.filter_cons_of_neg (by simp [hkey]), ih, List.lookup_cons]
      split
      · rfl
      · next hk => rw [beq_eq_false_iff_ne.mpr (hkey ▸ hk)]
    · rw [List.filter_cons_of_pos (by simp [hkey]), List.lookup_cons, List.lookup_cons, ih]
      by_cases hk : k = e.1
      · have hne : k ≠ key := by rwa [hk]
        rw [if_neg hne, if_neg hne]
      · rw [beq_eq_false_iff_ne.mpr hk]

theorem lookup_filterMap {γ : Type} (f : κ × γ → Option β) (key : κ) {ks : List (κ × γ)}
    (h : (ks.map Prod.fst).Nodup) :
    lookup key (ks.filterMap fun k => (f k).map (k.1, ·)) =
      (ks.lookup key).bind fun c => f (key, c) := by
  induction ks with
  | nil => rfl
  | cons k ks ih =>
    obtain ⟨hk, hks⟩ := List.nodup_cons.mp h
    obtain ⟨first, c⟩ := k
    by_cases hkey : first = key
    · obtain rfl := hkey
      have hrest : ks.lookup first = none := by
        rw [List.lookup_eq_none_iff]
        intro p hp
        exact bne_iff_ne.mpr fun heq => hk (List.mem_map.mpr ⟨p, hp, heq.symm⟩)
      rw [List.lookup_cons_self, Option.bind_some, List.filterMap_cons]
      cases hf : f (first, c) with
      | none => simp [ih hks, hrest]
      | some v => simp [lookup]
    · have hne : (key == first) = false := beq_eq_false_iff_ne.mpr (Ne.symm hkey)
      rw [List.lookup_cons, hne, ← ih hks, List.filterMap_cons]
      cases f (first, c) with
      | none => rfl
      | some v => simp [lookup, hkey]

omit [DecidableEq κ] in
theorem nodup_filterMap {γ : Type} (f : κ × γ → Option β) {ks : List (κ × γ)}
    (h : (ks.map Prod.fst).Nodup) :
    ((ks.filterMap fun k => (f k).map (k.1, ·)).map Prod.fst).Nodup := by
  refine List.Nodup.sublist ?_ h
  induction ks with
  | nil => exact List.Sublist.slnil
  | cons k ks ih =>
    have hks := ih (List.nodup_cons.mp h).2
    rw [List.filterMap_cons]
    cases f k with
    | none => exact hks.cons _
    | some v => exact hks.cons_cons _

section Values

variable {γ : Type} (f : κ → β → γ) (c : Catalog κ β)

def mapValues : Catalog κ γ where
  entries := c.entries.map fun e => (e.1, f e.1 e.2)
  nodup := by simpa [List.map_map, Function.comp_def] using c.nodup

omit [DecidableEq κ] in
@[simp] theorem keys_mapValues : (c.mapValues f).keys = c.keys := by
  simp [keys, mapValues, Function.comp_def]

@[simp] theorem get?_mapValues (key : κ) :
    (c.mapValues f).get? key = (c.get? key).map (f key) := by
  change lookup key (c.entries.map fun e => (e.1, f e.1 e.2)) = (lookup key c.entries).map (f key)
  induction c.entries with
  | nil => rfl
  | cons e es ih =>
    by_cases hkey : e.1 = key
    · simp [lookup, hkey]
    · simpa [lookup, hkey] using ih

end Values

section Layers

variable (key : κ)

/-- What is filed later comes before what is there. -/
theorem lookup_foldl_fileIn (es base : List (κ × β)) :
    lookup key (es.foldl (fun base e => fileIn e.1 e.2 base) base) =
      ((ofList es).get? key).or (lookup key base) := by
  induction es using List.reverseRecOn with
  | nil => rfl
  | append_singleton es e ih =>
    rw [List.foldl_append, List.foldl_cons, List.foldl_nil, lookup_fileIn, ih,
      ofList_append_singleton, get?_put]
    split <;> rfl

theorem entries_foldl_put (es : List (κ × β)) (c : Catalog κ β) :
    (es.foldl (fun c e => c.put e.1 e.2) c).entries =
      es.foldl (fun base e => fileIn e.1 e.2 base) c.entries := by
  induction es generalizing c with
  | nil => rfl
  | cons e es ih => exact ih (c.put e.1 e.2)

theorem get?_foldl_put (es : List (κ × β)) (c : Catalog κ β) :
    (es.foldl (fun c e => c.put e.1 e.2) c).get? key = ((ofList es).get? key).or (c.get? key) := by
  rw [get?, entries_foldl_put, lookup_foldl_fileIn]
  rfl

theorem get?_ofList_map {γ : Type} (f : β → γ) (es : List (κ × β)) :
    (ofList (es.map fun e => (e.1, f e.2))).get? key = ((ofList es).get? key).map f := by
  induction es using List.reverseRecOn with
  | nil => rfl
  | append_singleton es e ih =>
    rw [List.map_append, List.map_singleton, ofList_append_singleton, ofList_append_singleton,
      get?_put, get?_put]
    split
    · rfl
    · exact ih

end Layers

end Catalog
end ScriptProfiling
