import ScriptProfiling.Files.Tree
import ScriptProfiling.Proofs.Files.Path
import Mathlib.Data.List.Nodup

/-!
# Trees of files

In a tree as a file system has it nothing stands below a file, and every name is one that a folder
can hold. The text of an absolute path then leads to what stands there.
-/
namespace ScriptProfiling

/-- A name that something in a folder can have. -/
structure ProperName (name : String) : Prop where
  notEmpty : name ≠ ""
  noDot : name ≠ "."
  noParent : name ≠ ".."
  noSlash : '/' ∉ name.toList
  noNul : Char.ofNat 0 ∉ name.toList
  short : name.utf8ByteSize ≤ Tree.nameLimit

/-- A tree of files and folders without links, all of whose paths can be asked for. -/
structure Tree.Proper (t : Tree) : Prop where
  distinct : (t.nodes.map (·.1)).Nodup
  named : ∀ n ∈ t.nodes, ∀ name ∈ n.1, ProperName name
  short : ∀ n ∈ t.nodes, (Path.mk .single n.1).text.utf8ByteSize < Tree.pathLimit
  /-- Only folders have something below them. -/
  leaf : ∀ n ∈ t.nodes, ∀ m ∈ t.nodes, n.1 <+: m.1 → n.2 = .folder ∨ m.1 = n.1

instance (name : String) : Decidable (ProperName name) :=
  decidable_of_iff (name ≠ "" ∧ name ≠ "." ∧ name ≠ ".." ∧ '/' ∉ name.toList ∧
      Char.ofNat 0 ∉ name.toList ∧ name.utf8ByteSize ≤ Tree.nameLimit)
    ⟨fun ⟨h₁, h₂, h₃, h₄, h₅, h₆⟩ => ⟨h₁, h₂, h₃, h₄, h₅, h₆⟩,
      fun h => ⟨h.notEmpty, h.noDot, h.noParent, h.noSlash, h.noNul, h.short⟩⟩

instance (t : Tree) : Decidable t.Proper :=
  decidable_of_iff ((t.nodes.map (·.1)).Nodup ∧
      (∀ n ∈ t.nodes, ∀ name ∈ n.1, ProperName name) ∧
      (∀ n ∈ t.nodes, (Path.mk .single n.1).text.utf8ByteSize < Tree.pathLimit) ∧
      ∀ n ∈ t.nodes, ∀ m ∈ t.nodes, n.1 <+: m.1 → n.2 = .folder ∨ m.1 = n.1)
    ⟨fun ⟨h₁, h₂, h₃, h₄⟩ => ⟨h₁, h₂, h₃, h₄⟩,
      fun h => ⟨h.distinct, h.named, h.short, h.leaf⟩⟩

namespace Path

variable {names more : List String} {cs : List Char} {pieces : List (List Char)}

theorem pieces_of_proper (h : ∀ name ∈ names, ProperName name) :
    ∀ piece ∈ names.map String.toList,
      piece ≠ [] ∧ piece ≠ ['.'] ∧ '/' ∉ piece ∧ Char.ofNat 0 ∉ piece := by
  intro piece hpiece
  obtain ⟨name, hname, rfl⟩ := List.mem_map.mp hpiece
  have hproper := h name hname
  refine ⟨fun hnil => ?_, fun hdot => ?_, hproper.noSlash, hproper.noNul⟩
  · exact hproper.notEmpty (String.toList_inj.mp hnil)
  · exact hproper.noDot (String.toList_inj.mp hdot)

theorem text_single (names : List String) :
    (Path.mk .single names).text = "/" ++ "/".intercalate names := by
  rw [text, if_neg fun h => by cases h.1]
  rfl

theorem toList_text_single (names : List String) :
    (Path.mk .single names).text.toList = '/' :: ['/'].intercalate (names.map String.toList) := by
  rw [text_single, String.toList_append, String.toList_intercalate]
  rfl

theorem namesOf_intercalate (h : ∀ piece ∈ pieces, piece ≠ [] ∧ piece ≠ ['.'] ∧ '/' ∉ piece) :
    namesOf (['/'].intercalate pieces) = pieces := by
  cases pieces with
  | nil => rfl
  | cons piece pieces =>
    rw [namesOf, splitAt_intercalate (List.cons_ne_nil _ _) fun p hp => (h p hp).2.2]
    apply List.filter_eq_self.mpr
    intro p hp
    obtain ⟨hempty, hdot, -⟩ := h p hp
    rw [Bool.and_eq_true, Bool.not_eq_true', List.isEmpty_eq_false_iff, bne_iff_ne]
    exact ⟨hempty, hdot⟩

theorem rootOf_cons_slash (h : cs.head? ≠ some '/') : rootOf ('/' :: cs) = .single := by
  have hrest : cs.takeWhile (· == '/') = [] := by
    cases cs with
    | nil => rfl
    | cons c cs => exact List.takeWhile_cons_of_neg fun hc => h (by rw [eq_of_beq hc]; rfl)
  rw [rootOf, List.takeWhile_cons_of_pos (by decide), hrest]
  rfl

theorem head?_intercalate (h : ∀ piece ∈ pieces, piece ≠ [] ∧ '/' ∉ piece) :
    (['/'].intercalate pieces).head? ≠ some '/' := by
  cases pieces with
  | nil => exact nofun
  | cons piece pieces =>
    obtain ⟨hpiece, hslash⟩ := h piece List.mem_cons_self
    obtain ⟨c, rest, rfl⟩ := List.exists_cons_of_ne_nil hpiece
    have hc : c ≠ '/' := fun h => hslash (h ▸ List.mem_cons_self)
    cases pieces with
    | nil => simpa using hc
    | cons next pieces => simpa using hc

theorem parse_text (h : ∀ name ∈ names, ProperName name) :
    parse (Path.mk .single names).text = ⟨.single, names⟩ := by
  have hpieces := pieces_of_proper h
  have hhead := head?_intercalate fun piece hpiece =>
    ⟨(hpieces piece hpiece).1, (hpieces piece hpiece).2.2.1⟩
  have hnames := namesOf_intercalate fun piece hpiece =>
    ⟨(hpieces piece hpiece).1, (hpieces piece hpiece).2.1, (hpieces piece hpiece).2.2.1⟩
  rw [parse, toList_text_single, rootOf_cons_slash hhead, namesOf_cons_slash, hnames, List.map_map]
  simp [Function.comp_def]

theorem utf8ByteSize_intercalate_le (names more : List String) :
    ("/".intercalate names).utf8ByteSize ≤ ("/".intercalate (names ++ more)).utf8ByteSize := by
  induction names with
  | nil => exact Nat.zero_le _
  | cons name names ih =>
    cases hall : names ++ more with
    | nil =>
      rw [(List.append_eq_nil_iff.mp hall).1, List.cons_append, List.nil_append,
        (List.append_eq_nil_iff.mp hall).2]
    | cons next rest =>
      rw [hall] at ih
      rw [List.cons_append, hall, String.intercalate_cons_of_ne_nil (List.cons_ne_nil _ _),
        String.utf8ByteSize_append, String.utf8ByteSize_append]
      cases names with
      | nil =>
        rw [String.intercalate_singleton]
        omega
      | cons second names =>
        rw [String.intercalate_cons_of_ne_nil (List.cons_ne_nil _ _), String.utf8ByteSize_append,
          String.utf8ByteSize_append]
        omega

/-- The way to a place is no longer than the way beyond it. -/
theorem utf8ByteSize_text_le (h : names <+: more) :
    (Path.mk .single names).text.utf8ByteSize ≤ (Path.mk .single more).text.utf8ByteSize := by
  obtain ⟨beyond, rfl⟩ := h
  rw [text_single, text_single, String.utf8ByteSize_append, String.utf8ByteSize_append]
  exact Nat.add_le_add_left (utf8ByteSize_intercalate_le names beyond) _

theorem notMem_text (h : ∀ name ∈ names, ProperName name) :
    Char.ofNat 0 ∉ (Path.mk .single names).text.toList := by
  rw [toList_text_single]
  cases names with
  | nil => decide
  | cons name names =>
    have hpieces := pieces_of_proper h
    have hslash := fun piece hpiece => (hpieces piece hpiece).2.2.1
    -- The text is each name behind a slash.
    rw [← flatMap_splitAt, splitAt_intercalate (by simp) hslash]
    intro hmem
    obtain ⟨piece, hpiece, hmem⟩ := List.mem_flatMap.mp hmem
    rcases List.mem_cons.mp hmem with hslash | hmem
    · exact absurd hslash (by decide)
    · exact (hpieces piece hpiece).2.2.2 hmem

end Path

namespace Tree

variable {t : Tree} {place names : List String} {node : Node} {content : List UInt8}

theorem mem_of_found {found : List String × Node}
    (h : t.nodes.find? (·.1 == names) = some found) : found ∈ t.nodes ∧ found.1 = names := by
  have hsame := List.find?_some h
  exact ⟨List.mem_of_find?_eq_some h, eq_of_beq hsame⟩

theorem Proper.node?_of_mem (ht : t.Proper) (h : (names, node) ∈ t.nodes) :
    t.node? names = some node := by
  rw [node?]
  cases hfind : t.nodes.find? (·.1 == names) with
  | none => exact absurd (List.find?_eq_none.mp hfind _ h) (by simp)
  | some found =>
    obtain ⟨hmem, hnames⟩ := mem_of_found hfind
    rw [List.inj_on_of_nodup_map ht.distinct hmem h hnames]

theorem exists_of_node? (h : t.node? names = some node) :
    (names, node) ∈ t.nodes ∨ node = .folder ∧ (names = [] ∨ ∃ n ∈ t.nodes, names <+: n.1) := by
  unfold node? at h
  split at h
  · next found hfound =>
    left
    obtain rfl := Option.some.inj h
    obtain ⟨hmem, rfl⟩ := mem_of_found hfound
    exact hmem
  · split at h
    · next hway =>
      obtain rfl := Option.some.inj h
      rw [Bool.or_eq_true, List.isEmpty_iff, List.any_eq_true] at hway
      simp only [List.isPrefixOf_iff_prefix] at hway
      exact Or.inr ⟨rfl, hway⟩
    · cases h

theorem Proper.node?_of_prefix (ht : t.Proper) {n : List String × Node} (hn : n ∈ t.nodes)
    (hway : names <+: n.1) (hne : names ≠ n.1) : t.node? names = some .folder := by
  unfold node?
  split
  · next found hfound =>
    obtain ⟨hmem, hnames⟩ := mem_of_found hfound
    have hfolder := ht.leaf found hmem n hn (hnames ▸ hway)
    rw [hfolder.resolve_right fun h => hne (hnames ▸ h.symm)]
  · rw [if_pos]
    rw [Bool.or_eq_true, List.any_eq_true]
    exact Or.inr ⟨n, hn, List.isPrefixOf_iff_prefix.mpr hway⟩

theorem Proper.folder_of_node? (ht : t.Proper) (h : t.node? (place ++ names) = some node)
    (hne : names ≠ []) : t.node? place = some .folder := by
  have hlonger : place ≠ place ++ names := fun heq => hne (List.append_right_eq_self.mp heq.symm)
  rcases exists_of_node? h with hmem | ⟨-, hnil | ⟨n, hn, hway⟩⟩
  · exact ht.node?_of_prefix hmem (List.prefix_append _ _) hlonger
  · exact absurd (List.append_eq_nil_iff.mp hnil).2 hne
  · refine ht.node?_of_prefix hn ((List.prefix_append _ _).trans hway) fun heq => ?_
    have hlength := hway.length_le
    rw [← heq, List.length_append] at hlength
    have := List.length_pos_iff.mpr hne
    omega

theorem Proper.named_of_node? (ht : t.Proper) (h : t.node? names = some node) :
    ∀ name ∈ names, ProperName name := by
  rcases exists_of_node? h with hmem | ⟨-, rfl | ⟨n, hn, hway⟩⟩
  · exact ht.named _ hmem
  · exact fun name hname => absurd hname List.not_mem_nil
  · exact fun name hname => ht.named n hn name (hway.subset hname)

theorem Proper.short_of_node? (ht : t.Proper) (h : t.node? names = some node) :
    (Path.mk .single names).text.utf8ByteSize < pathLimit := by
  rcases exists_of_node? h with hmem | ⟨-, rfl | ⟨n, hn, hway⟩⟩
  · exact ht.short _ hmem
  · decide
  · exact Nat.lt_of_le_of_lt (Path.utf8ByteSize_text_le hway) (ht.short n hn)

theorem Proper.walk_eq (ht : t.Proper) (h : t.node? (place ++ names) = some node) :
    t.walk place names = .ok (place ++ names, node) := by
  induction names generalizing place with
  | nil =>
    rw [List.append_nil] at h
    rw [walk, h, List.append_nil]
  | cons name names ih =>
    have hname := ht.named_of_node? h name (by simp)
    have hfolder := ht.folder_of_node? h (List.cons_ne_nil _ _)
    have hrest : t.node? ((place ++ [name]) ++ names) = some node := by
      rwa [List.append_assoc, List.singleton_append]
    rw [walk, hfolder]
    dsimp only
    rw [if_neg (Nat.not_lt.mpr hname.short), if_neg hname.noParent, ih hrest, List.append_assoc,
      List.singleton_append]

/-- The text of an absolute path leads to what stands there, from any folder. -/
theorem Proper.find_text (ht : t.Proper) (h : t.node? names = some node) (cwd : Path) :
    t.find cwd (Path.mk .single names).text = .ok (names, node) := by
  have hnames := ht.named_of_node? h
  have hnul := Path.notMem_text hnames
  rw [find, if_neg (by simpa using hnul), if_neg (Nat.not_le.mpr (ht.short_of_node? h)),
    Path.parse_text hnames]
  exact ht.walk_eq h

theorem Proper.read_text (ht : t.Proper) (h : t.node? names = some (.file content)) (cwd : Path) :
    t.read cwd (Path.mk .single names).text = .ok content := by
  rw [read, ht.find_text h cwd]

theorem Proper.isFolder_text (ht : t.Proper) (h : t.node? names = some .folder) (cwd : Path) :
    t.isFolder cwd (Path.mk .single names).text = .ok true := by
  rw [isFolder, node, ht.find_text h cwd]
  rfl

end Tree

end ScriptProfiling
