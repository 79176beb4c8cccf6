/-!
# Catalogs

A catalog files values under keys and remembers the order in which the keys came:
filing a value under a present key replaces the value in its place.
-/
namespace ScriptProfiling

/-- Entries in order of first filing, with no key twice. -/
structure Catalog (κ β : Type) where
  entries : List (κ × β)
  nodup : (entries.map Prod.fst).Nodup

namespace Catalog

variable {κ β : Type}

def empty : Catalog κ β := ⟨[], List.nodup_nil⟩

instance : EmptyCollection (Catalog κ β) := ⟨empty⟩
instance : Inhabited (Catalog κ β) := ⟨empty⟩

def keys (c : Catalog κ β) : List κ := c.entries.map Prod.fst

def values (c : Catalog κ β) : List β := c.entries.map Prod.snd

def size (c : Catalog κ β) : Nat := c.entries.length

def isEmpty (c : Catalog κ β) : Bool := c.entries.isEmpty

section

variable [DecidableEq κ]

def lookup (key : κ) : List (κ × β) → Option β
  | [] => none
  | e :: es => if e.1 = key then some e.2 else lookup key es

def get? (c : Catalog κ β) (key : κ) : Option β := lookup key c.entries

def fileIn (key : κ) (value : β) : List (κ × β) → List (κ × β)
  | [] => [(key, value)]
  | e :: es => if e.1 = key then (key, value) :: es else e :: fileIn key value es

theorem keys_fileIn (key : κ) (value : β) (es : List (κ × β)) :
    (fileIn key value es).map Prod.fst =
      if key ∈ es.map Prod.fst then es.map Prod.fst else es.map Prod.fst ++ [key] := by
  induction es with
  | nil => simp [fileIn]
  | cons e es ih =>
    by_cases h : e.1 = key
    · simp [fileIn, h]
    · have h' : ¬ key = e.1 := fun eq => h eq.symm
      simp only [fileIn, h, if_false, List.map_cons, ih, List.mem_cons, h', false_or]
      split <;> simp

/-- Files a value under a key. -/
def put (c : Catalog κ β) (key : κ) (value : β) : Catalog κ β where
  entries := fileIn key value c.entries
  nodup := by
    rw [keys_fileIn]
    split
    · exact c.nodup
    · next h =>
      rw [List.nodup_append]
      refine ⟨c.nodup, by simp, ?_⟩
      intro a ha b hb
      simp only [List.mem_singleton] at hb
      subst hb
      exact fun eq => h (eq ▸ ha)

def ofList (es : List (κ × β)) : Catalog κ β := es.foldl (fun c e => c.put e.1 e.2) empty

theorem lookup_fileIn (key other : κ) (value : β) (es : List (κ × β)) :
    lookup other (fileIn key value es) = if key = other then some value else lookup other es := by
  induction es with
  | nil => simp [fileIn, lookup]
  | cons e es ih =>
    by_cases h : e.1 = key
    · by_cases ho : key = other <;> simp [fileIn, lookup, h, ho]
    · by_cases ho : key = other
      · subst ho
        simp [fileIn, lookup, h, ih]
      · simp [fileIn, lookup, h, ih, ho]

@[simp] theorem get?_put (c : Catalog κ β) (key other : κ) (value : β) :
    (c.put key value).get? other = if key = other then some value else c.get? other :=
  lookup_fileIn key other value c.entries

@[simp] theorem get?_empty (key : κ) : (empty : Catalog κ β).get? key = none := rfl

theorem keys_put (c : Catalog κ β) (key : κ) (value : β) :
    (c.put key value).keys = if key ∈ c.keys then c.keys else c.keys ++ [key] :=
  keys_fileIn key value c.entries

end

end Catalog
end ScriptProfiling
