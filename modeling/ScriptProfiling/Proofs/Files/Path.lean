import ScriptProfiling.Files.Path
import ScriptProfiling.Proofs.Text.Lines
import Mathlib.Data.List.TakeWhile

/-!
# Names of files

A short name lies in its path, and no kind of slash is left in it. It is the last name of the path,
whichever slashes separate the names and however many stand behind the last. The suffix of a name
begins at its last dot, if that is neither the first nor the last character. A path of proper names
is read back from its text.
-/
namespace ScriptProfiling

namespace Path

theorem isInfix_of_mem_namesOf {cs name : List Char} (h : name ∈ namesOf cs) : name <:+: cs :=
  (splitAt_pieces '/' cs).2 name (List.mem_of_mem_filter h)

/-- The names before a separator and those behind it have nothing to do with each other. -/
theorem namesOf_append_slash (cs ds : List Char) :
    namesOf (cs ++ '/' :: ds) = namesOf cs ++ namesOf ds := by
  simp only [namesOf, splitAt_append_cons, List.filter_append]

theorem namesOf_cons_slash (cs : List Char) : namesOf ('/' :: cs) = namesOf cs :=
  namesOf_append_slash [] cs

theorem namesOf_append_slashes (cs : List Char) (n : Nat) :
    namesOf (cs ++ List.replicate n '/') = namesOf cs := by
  induction n generalizing cs with
  | zero => rw [List.replicate_zero, List.append_nil]
  | succ n ih =>
    have hslashes : namesOf (List.replicate n '/') = [] := ih []
    rw [List.replicate_succ, namesOf_append_slash, hslashes, List.append_nil]

theorem namesOf_eq_singleton {name : List Char} (hne : name ≠ []) (hdot : name ≠ ['.'])
    (hslash : '/' ∉ name) : namesOf name = [name] := by
  rw [namesOf, splitAt_eq_singleton hslash]
  exact List.filter_cons_of_pos (by simpa using ⟨hne, hdot⟩)

end Path

section ShortName

variable {path other name tail : List Char} {c d slash : Char}

/-- Both kinds of slash separate names. -/
def isSlash (c : Char) : Bool := c == '/' || c == '\\'

/-- Two characters that are the same for a path. -/
def SameInPath (c d : Char) : Prop := c = d ∨ (isSlash c = true ∧ isSlash d = true)

instance (c d : Char) : Decidable (SameInPath c d) := inferInstanceAs (Decidable (_ ∨ _))

/-- The character, with one kind of slash for both. -/
def asSlash (c : Char) : Char := if c = '\\' then '/' else c

theorem asSlash_of_isSlash (h : isSlash c = true) : asSlash c = '/' := by
  have hkind : c = '/' ∨ c = '\\' := by simpa [isSlash] using h
  rcases hkind with rfl | rfl <;> rfl

theorem asSlash_of_not_isSlash (h : isSlash c = false) : asSlash c = c := by
  have hkind : c ≠ '/' ∧ c ≠ '\\' := by simpa [isSlash] using h
  exact if_neg hkind.2

theorem SameInPath.asSlash_eq (h : SameInPath c d) : asSlash c = asSlash d := by
  rcases h with rfl | ⟨hc, hd⟩
  · rfl
  · rw [asSlash_of_isSlash hc, asSlash_of_isSlash hd]

theorem shortFileName_of_ne_nil (h : path ≠ []) :
    shortFileName path = ((Path.namesOf (path.map asSlash)).getLast?).getD [] :=
  if_neg (by simpa using h)

theorem mem_map_asSlash (h : c ∈ path.map asSlash) : c ≠ '\\' ∧ (c ∈ path ∨ c = '/') := by
  obtain ⟨d, hd, rfl⟩ := List.mem_map.mp h
  unfold asSlash
  split
  · exact ⟨by decide, Or.inr rfl⟩
  · next hne => exact ⟨hne, Or.inl hd⟩

/-- A path without characters has a name all the same. -/
theorem mem_shortFileName (h : c ∈ shortFileName path) :
    (c ≠ '/' ∧ c ≠ '\\') ∧ (c ∈ path ∨ c ∈ "unknown".toList) := by
  by_cases hpath : path = []
  · obtain rfl := hpath
    have hunknown : "unknown".toList.all (fun d => d != '/' && d != '\\') = true := by decide
    exact ⟨by simpa using List.all_eq_true.mp hunknown c h, Or.inr h⟩
  · rw [shortFileName_of_ne_nil hpath] at h
    cases hlast : (Path.namesOf (path.map asSlash)).getLast? with
    | none =>
      rw [hlast] at h
      cases h
    | some name =>
      rw [hlast] at h
      have hname := List.mem_of_getLast? hlast
      have hsplit := List.mem_of_mem_filter hname
      obtain ⟨hback, hpath⟩ := mem_map_asSlash ((Path.isInfix_of_mem_namesOf hname).subset h)
      have hslash : c ≠ '/' := fun hc => not_mem_of_mem_splitAt hsplit (hc ▸ h)
      exact ⟨⟨hslash, hback⟩, Or.inl (hpath.resolve_right hslash)⟩

theorem slash_not_mem_shortFileName (path : List Char) : '/' ∉ shortFileName path :=
  fun h => (mem_shortFileName h).1.1 rfl

theorem backslash_not_mem_shortFileName (path : List Char) : '\\' ∉ shortFileName path :=
  fun h => (mem_shortFileName h).1.2 rfl

theorem shortFileName_congr (h : List.Forall₂ SameInPath path other) :
    shortFileName path = shortFileName other := by
  have hmap : path.map asSlash = other.map asSlash := by
    induction h with
    | nil => rfl
    | cons hsame _ ih => rw [List.map_cons, List.map_cons, hsame.asSlash_eq, ih]
  cases h with
  | nil => rfl
  | cons _ _ =>
    rw [shortFileName_of_ne_nil (List.cons_ne_nil _ _),
      shortFileName_of_ne_nil (List.cons_ne_nil _ _), hmap]

theorem shortFileName_append (front : List Char) (hslash : isSlash slash = true) (hne : name ≠ [])
    (hname : ∀ c ∈ name, isSlash c = false) (hdot : name ≠ ['.'])
    (htail : ∀ c ∈ tail, isSlash c = true) :
    shortFileName (front ++ slash :: (name ++ tail)) = name := by
  have hkept : name.map asSlash = name :=
    (List.map_congr_left fun c hc => asSlash_of_not_isSlash (hname c hc)).trans (List.map_id _)
  have hslashes : tail.map asSlash = List.replicate tail.length '/' :=
    List.map_eq_replicate_iff.mpr fun c hc => asSlash_of_isSlash (htail c hc)
  have hsplit : (front ++ slash :: (name ++ tail)).map asSlash =
      front.map asSlash ++ '/' :: (name ++ List.replicate tail.length '/') := by
    rw [List.map_append, List.map_cons, List.map_append, asSlash_of_isSlash hslash, hkept, hslashes]
  have hsingle : Path.namesOf name = [name] :=
    Path.namesOf_eq_singleton hne hdot fun hmem => absurd (hname '/' hmem) (by decide)
  rw [shortFileName_of_ne_nil (by simp), hsplit, Path.namesOf_append_slash,
    Path.namesOf_append_slashes, hsingle, List.getLast?_concat]
  rfl

end ShortName

section Suffix

variable {name stem tail : List Char}

theorem nameSuffix_of_notMem (h : '.' ∉ name) : nameSuffix name = [] := by
  have hafter : name.reverse.takeWhile (· != '.') = name.reverse := by
    apply List.takeWhile_eq_self_iff.mpr
    intro c hc
    exact bne_iff_ne.mpr fun hdot => h (hdot ▸ List.mem_reverse.mp hc)
  simp [nameSuffix, hafter]

theorem nameSuffix_append (hdot : '.' ∉ tail) :
    nameSuffix (stem ++ '.' :: tail) = if stem = [] ∨ tail = [] then [] else '.' :: tail := by
  have hkeep : ∀ c ∈ tail.reverse, (c != '.') = true := by
    intro c hc
    exact bne_iff_ne.mpr fun h => hdot (h ▸ List.mem_reverse.mp hc)
  have hafter : (stem ++ '.' :: tail).reverse.takeWhile (· != '.') = tail.reverse := by
    rw [List.reverse_append, List.reverse_cons, List.append_assoc,
      List.takeWhile_append_of_pos hkeep, List.singleton_append,
      List.takeWhile_cons_of_neg (by decide), List.append_nil]
  have hcond : (tail.reverse.isEmpty || decide ((stem ++ '.' :: tail).length -
      tail.reverse.length ≤ 1)) = true ↔ stem = [] ∨ tail = [] := by
    rw [List.isEmpty_reverse, List.length_reverse, List.length_append, List.length_cons,
      Bool.or_eq_true, List.isEmpty_iff, decide_eq_true_eq, or_comm,
      ← List.length_eq_zero_iff (l := stem)]
    exact or_congr (by omega) Iff.rfl
  simp only [nameSuffix, hafter, List.reverse_reverse]
  exact if_congr hcond rfl rfl

theorem exists_of_nameSuffix (h : nameSuffix name ≠ []) : ∃ stem tail,
    stem ≠ [] ∧ name = stem ++ '.' :: tail ∧ nameSuffix name = '.' :: tail := by
  by_cases hmem : '.' ∈ name
  · obtain ⟨after, before, hname, hdot⟩ := List.eq_append_cons_of_mem (List.mem_reverse.mpr hmem)
    obtain rfl : name = before.reverse ++ '.' :: after.reverse := by
      rw [← List.reverse_inj, hname]
      simp
    rw [nameSuffix_append (by simpa using hdot)] at h ⊢
    split at h
    · exact absurd rfl h
    · next hparts => exact ⟨_, _, fun hstem => hparts (Or.inl hstem), rfl, if_neg hparts⟩
  · exact absurd (nameSuffix_of_notMem hmem) h

end Suffix
end ScriptProfiling
