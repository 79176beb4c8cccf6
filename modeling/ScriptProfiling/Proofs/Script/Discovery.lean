import ScriptProfiling.Proofs.Config.Assembly
import ScriptProfiling.Proofs.Files.Tree
import ScriptProfiling.Proofs.Text.Lowercase
import ScriptProfiling.Script.Discovery

/-!
# Which scripts are found

The scripts below a folder are the files whose names are more than the extension and end in it, with
both in lower case. An extension has one dot, at its front: only the last dot of a name counts. What
else is in the tree makes no difference.
-/
namespace ScriptProfiling

/-- A name ends in the extension when both are made small, and is longer than it. -/
def EndsIn (small : List Char → List Char) (extension name : List Char) : Prop :=
  ∃ stem ending, stem ≠ [] ∧ name = stem ++ ending ∧ small ending = small extension

/-- An extension that a suffix can be: all of it but the first dot lies behind the last dot. -/
def OneDot (extension : List Char) : Prop :=
  ∃ rest, extension = '.' :: rest ∧ rest ≠ [] ∧ '.' ∉ rest

/-- A file below a folder whose name has the extension. -/
def Tree.IsScript (t : Tree) (place : List String) (extension : String) (names : List String)
    (content : List UInt8) : Prop :=
  t.node? names = some (.file content) ∧
    ∃ way name, names = place ++ way ++ [name] ∧ EndsIn lowercase extension.toList name.toList

/-- What is found below a folder. -/
structure Discovery (t : Tree) (place : List String) (extension : String)
    (scripts : List FoundScript) : Prop where
  ordered : scripts.Pairwise fun a b => (Path.parse a.path).names < (Path.parse b.path).names
  sound : ∀ s ∈ scripts, ∃ names content, t.IsScript place extension names content ∧
    s.path = absoluteText names ∧ Path.parse s.path = ⟨.single, names⟩
  lines : ∀ s ∈ scripts, ∀ cwd, readScript t cwd s.path = .ok s.lines
  complete : OneDot extension.toList → ∀ names content,
    t.IsScript place extension names content → ∃ s ∈ scripts, s.path = absoluteText names

section Extensions

variable {extension name : List Char}

theorem endsIn_of_suffix (hdot : extension.head? = some '.')
    (h : lowercase (nameSuffix name) = lowercase extension) : EndsIn lowercase extension name := by
  have hsuffix : nameSuffix name ≠ [] := by
    intro hnil
    rw [hnil] at h
    rw [lowerAfter_eq_nil.mp h.symm] at hdot
    cases hdot
  obtain ⟨stem, tail, hstem, hname, hends⟩ := exists_of_nameSuffix hsuffix
  exact ⟨stem, '.' :: tail, hstem, hname, hends ▸ h⟩

theorem suffix_of_endsIn (hext : OneDot extension) (h : EndsIn lowercase extension name) :
    lowercase (nameSuffix name) = lowercase extension := by
  obtain ⟨rest, rfl, hrest, hnone⟩ := hext
  obtain ⟨stem, ending, hstem, rfl, hlower⟩ := h
  have hfront : lowercase ('.' :: rest) = '.' :: lowerAfter ['.'] rest :=
    lowerAfter_cons (by decide) []
  have hhead : (lowercase ending).head? = some '.' := by
    rw [hlower, hfront, List.head?_cons]
  obtain ⟨tail, rfl⟩ := List.head?_eq_some_iff.mp (head?_of_lowerAfter hhead)
  have hdots := congrArg (List.count '.') hlower
  rw [lowercase, lowercase, count_dot_lowerAfter, count_dot_lowerAfter, List.count_cons_self,
    List.count_cons_self, List.count_eq_zero.mpr hnone] at hdots
  have htail : '.' ∉ tail := List.count_eq_zero.mp (Nat.succ.inj hdots)
  have hmore : tail ≠ [] := by
    rintro rfl
    rw [hfront] at hlower
    exact hrest (lowerAfter_eq_nil.mp (List.cons.inj hlower).2.symm)
  rw [nameSuffix_append htail, if_neg (not_or.mpr ⟨hstem, hmore⟩), hlower]

theorem endsIn_lowercase (h : EndsIn (List.map Char.toLower) extension name) :
    EndsIn lowercase extension name := by
  obtain ⟨stem, ending, hstem, hname, hends⟩ := h
  refine ⟨stem, ending, hstem, hname, ?_⟩
  rw [← lowercase_map_toLower ending, hends, lowercase_map_toLower]

/-- For an extension of plain letters the Kelvin sign is all that makes a difference. -/
theorem endsIn_plain (hext : ∀ c ∈ extension, c.toNat < 128) (hname : kelvinSign ∉ name)
    (h : EndsIn lowercase extension name) : EndsIn (List.map Char.toLower) extension name := by
  obtain ⟨stem, ending, hstem, rfl, hends⟩ := h
  refine ⟨stem, ending, hstem, rfl, ?_⟩
  have hsmall : lowercase extension = extension.map Char.toLower := lowerAfter_of_plain [] hext
  have hplain : ∀ d ∈ lowercase ending, d.toNat < 128 := by
    rw [hends, hsmall]
    intro d hd
    obtain ⟨c, hc, rfl⟩ := List.mem_map.mp hd
    exact toNat_toLower_lt_iff.mpr (hext c hc)
  have hending : ∀ c ∈ ending, c.toNat < 128 := by
    intro c hc
    refine (plain_of_lowerAfter hplain c hc).resolve_right ?_
    rintro rfl
    exact hname (List.mem_append_right _ hc)
  calc ending.map Char.toLower = lowercase ending := (lowerAfter_of_plain [] hending).symm
    _ = extension.map Char.toLower := by rw [hends, hsmall]

end Extensions

section Sorting

variable {a b c : List String}

theorem namesBefore_iff : namesBefore a b = true ↔ a < b ∨ a = b := by
  rw [namesBefore, Bool.or_eq_true, decide_eq_true_eq, beq_iff_eq]

theorem namesBefore_trans (hab : namesBefore a b = true) (hbc : namesBefore b c = true) :
    namesBefore a c = true := by
  rw [namesBefore_iff] at hab hbc ⊢
  rcases hab with hab | rfl
  · rcases hbc with hbc | rfl
    · exact Or.inl (List.lt_trans hab hbc)
    · exact Or.inl hab
  · exact hbc

theorem namesBefore_total (a b : List String) : (namesBefore a b || namesBefore b a) = true := by
  rw [Bool.or_eq_true, namesBefore_iff, namesBefore_iff]
  by_cases hab : a < b
  · exact Or.inl (Or.inl hab)
  by_cases hba : b < a
  · exact Or.inr (Or.inl hba)
  · exact Or.inl (Or.inr (List.le_antisymm (List.not_lt.mp hba) (List.not_lt.mp hab)))

end Sorting

section Found

variable {t : Tree} {place names : List String} {extension : String} {content : List UInt8}

theorem mem_filesBelow : (names, content) ∈ t.filesBelow place ↔
    (names, .file content) ∈ t.nodes ∧ place <+: names ∧ names ≠ place := by
  unfold Tree.filesBelow
  rw [List.mem_filterMap]
  constructor
  · rintro ⟨⟨other, node⟩, hmem, h⟩
    cases node with
    | folder => cases h
    | file c =>
      obtain ⟨hbelow, h⟩ := Option.ite_none_right_eq_some.mp h
      obtain ⟨rfl, rfl⟩ := Prod.mk.inj (Option.some.inj h)
      simpa [hmem] using hbelow
  · rintro ⟨hmem, hbelow⟩
    exact ⟨_, hmem, by simpa using hbelow⟩

theorem mem_scriptFiles : (names, content) ∈ scriptFiles t place extension ↔
    ((names, .file content) ∈ t.nodes ∧ place <+: names ∧ names ≠ place) ∧
      lowercase (nameSuffix (names.getLast?.getD "").toList) = lowercase extension.toList := by
  rw [scriptFiles, List.mem_mergeSort, List.mem_filter, mem_filesBelow, hasSuffix, beq_iff_eq]

theorem filesBelow_distinct (ht : t.Proper) (place : List String) :
    (t.filesBelow place).Pairwise fun f g => f.1 ≠ g.1 := by
  have hnodes : t.nodes.Pairwise fun n m => n.1 ≠ m.1 := List.pairwise_map.mp ht.distinct
  unfold Tree.filesBelow
  rw [List.pairwise_filterMap]
  refine hnodes.imp ?_
  rintro ⟨names, node⟩ ⟨names', node'⟩ hne f hf g hg
  cases node with
  | folder => cases hf
  | file content =>
    cases node' with
    | folder => cases hg
    | file content' =>
      obtain ⟨-, hf⟩ := Option.ite_none_right_eq_some.mp hf
      obtain ⟨-, hg⟩ := Option.ite_none_right_eq_some.mp hg
      obtain rfl := Option.some.inj hf
      obtain rfl := Option.some.inj hg
      exact hne

/-- No two files have one path, so their order is strict. -/
theorem scriptFiles_ordered (ht : t.Proper) (place : List String) (extension : String) :
    (scriptFiles t place extension).Pairwise fun f g => f.1 < g.1 := by
  have hdistinct : (scriptFiles t place extension).Pairwise fun f g => f.1 ≠ g.1 := by
    refine ((List.mergeSort_perm _ _).pairwise_iff fun h => h.symm).mpr ?_
    exact (filesBelow_distinct ht place).filter _
  have hsorted : (scriptFiles t place extension).Pairwise fun f g =>
      namesBefore f.1 g.1 = true := by
    apply List.pairwise_mergeSort
    · intro f g h
      exact namesBefore_trans
    · intro f g
      exact namesBefore_total f.1 g.1
  refine hdistinct.imp₂ (fun f g hne hbefore => ?_) hsorted
  exact (namesBefore_iff.mp hbefore).resolve_right hne

theorem scriptFiles_nodup (ht : t.Proper) (place : List String) (extension : String) :
    (scriptFiles t place extension).Nodup := by
  refine (scriptFiles_ordered ht place extension).imp ?_
  rintro f _ h rfl
  exact List.lt_irrefl _ h

theorem mem_scriptFiles_iff (ht : t.Proper) (hdot : extension.toList.head? = some '.') :
    (names, content) ∈ scriptFiles t place extension ↔ t.IsScript place extension names content ∧
      lowercase (nameSuffix (names.getLast?.getD "").toList) = lowercase extension.toList := by
  rw [mem_scriptFiles, and_congr_left_iff]
  intro hsuffix
  constructor
  · rintro ⟨hmem, ⟨beyond, rfl⟩, hne⟩
    refine ⟨ht.node?_of_mem hmem, ?_⟩
    rcases List.eq_nil_or_concat beyond with rfl | ⟨way, name, rfl⟩
    · exact absurd (List.append_nil place) hne
    · refine ⟨way, name, by simp, endsIn_of_suffix hdot ?_⟩
      simpa using hsuffix
  · rintro ⟨hnode, way, name, rfl, -⟩
    refine ⟨?_, by simp [List.append_assoc], ?_⟩
    · rcases Tree.exists_of_node? hnode with hmem | ⟨hfolder, -⟩
      · exact hmem
      · cases hfolder
    · rw [List.append_assoc, ne_eq, List.append_right_eq_self]
      simp

theorem scriptFiles_congr {t' : Tree} (ht : t.Proper) (ht' : t'.Proper)
    (hdot : extension.toList.head? = some '.')
    (h : ∀ names content,
      t'.IsScript place extension names content ↔ t.IsScript place extension names content) :
    scriptFiles t' place extension = scriptFiles t place extension := by
  have hmem : ∀ f, f ∈ scriptFiles t' place extension ↔ f ∈ scriptFiles t place extension := by
    rintro ⟨names, content⟩
    rw [mem_scriptFiles_iff ht' hdot, mem_scriptFiles_iff ht hdot, h]
  have hperm : (scriptFiles t' place extension).Perm (scriptFiles t place extension) :=
    (List.perm_ext_iff_of_nodup (scriptFiles_nodup ht' place extension)
      (scriptFiles_nodup ht place extension)).mpr hmem
  refine List.Perm.eq_of_pairwise (fun f g _ _ hfg hgf => ?_)
    (scriptFiles_ordered ht' place extension) (scriptFiles_ordered ht place extension) hperm
  exact absurd (List.lt_trans hfg hgf) (List.lt_irrefl _)

end Found

/-- What is found of a file. -/
def FoundScript.ofFile (f : List String × List UInt8) : FoundScript where
  path := absoluteText f.1
  lines := (scriptLines (decodeLenient f.2)).map String.ofList

section Discovering

variable {t : Tree} {cwd : Path} {place : List String} {folder : Path} {root extension : String}
  {args : Settings.Arguments} {s : Settings}

theorem discovery_scriptFiles (ht : t.Proper) (hdot : extension.toList.head? = some '.') :
    Discovery t place extension ((scriptFiles t place extension).map .ofFile) := by
  have hscript : ∀ f ∈ scriptFiles t place extension, t.IsScript place extension f.1 f.2 :=
    fun f hf => ((mem_scriptFiles_iff ht hdot).mp hf).1
  have hparse : ∀ f ∈ scriptFiles t place extension,
      Path.parse (absoluteText f.1) = ⟨.single, f.1⟩ :=
    fun f hf => Path.parse_text (ht.named_of_node? (hscript f hf).1)
  constructor
  · rw [List.pairwise_map]
    refine (scriptFiles_ordered ht place extension).imp_of_mem fun {f g} hf hg hbefore => ?_
    rwa [FoundScript.ofFile, FoundScript.ofFile, hparse f hf, hparse g hg]
  · intro script hmem
    obtain ⟨f, hf, rfl⟩ := List.mem_map.mp hmem
    exact ⟨f.1, f.2, hscript f hf, rfl, hparse f hf⟩
  · intro script hmem cwd
    obtain ⟨f, hf, rfl⟩ := List.mem_map.mp hmem
    rw [readScript, FoundScript.ofFile, absoluteText, ht.read_text (hscript f hf).1 cwd]
  · intro hext names content h
    obtain ⟨way, name, rfl, hends⟩ := h.2
    refine ⟨_, List.mem_map_of_mem ((mem_scriptFiles_iff ht hdot).mpr ⟨h, ?_⟩), rfl⟩
    simpa using suffix_of_endsIn hext hends

theorem discoverScripts_eq (ht : t.Proper) (hroot : Char.ofNat 0 ∉ root.toList)
    (hplace : Path.resolve cwd (Path.parse root) = folder)
    (hfolder : t.node? folder.names = some .folder) (extension : String) :
    discoverScripts t cwd root extension =
      .ok ⟨(scriptFiles t folder.names extension).map .ofFile,
        [⟨.info, .loader, "Loading scripts from: " ++ folder.text⟩]⟩ := by
  subst hplace
  have hisFolder : t.isFolder cwd (Path.resolve cwd (Path.parse root)).text = .ok true :=
    ht.isFolder_text hfolder cwd
  rw [discoverScripts, if_neg (by simpa using hroot)]
  simp only [hisFolder, ok_bind]
  rfl

/-- What is found below a folder, for any extension that settings accept: scripts only, all of them
if the extension has one dot, each once and in the order of the names on its path. Other files have
no part in it. A name that ends in the extension but for the case of plain letters is a script's; it
is the only one if the extension is plain, but for the Kelvin sign. -/
theorem discoverScripts_exact (hs : Settings.ofArguments args = .ok s) (ht : t.Proper)
    (hroot : Char.ofNat 0 ∉ root.toList) (hplace : Path.resolve cwd (Path.parse root) = folder)
    (hfolder : t.node? folder.names = some .folder) :
    ∃ scripts,
      discoverScripts t cwd root s.scriptExtension =
        .ok ⟨scripts, [⟨.info, .loader, "Loading scripts from: " ++ folder.text⟩]⟩ ∧
      Discovery t folder.names s.scriptExtension scripts ∧
      (∀ t' : Tree, t'.Proper → t'.node? folder.names = some .folder →
        (∀ names content, t'.IsScript folder.names s.scriptExtension names content ↔
          t.IsScript folder.names s.scriptExtension names content) →
        discoverScripts t' cwd root s.scriptExtension =
          discoverScripts t cwd root s.scriptExtension) ∧
      (∀ name, EndsIn (List.map Char.toLower) s.scriptExtension.toList name →
        EndsIn lowercase s.scriptExtension.toList name) ∧
      ((∀ c ∈ s.scriptExtension.toList, c.toNat < 128) → ∀ name, kelvinSign ∉ name →
        EndsIn lowercase s.scriptExtension.toList name →
        EndsIn (List.map Char.toLower) s.scriptExtension.toList name) := by
  obtain ⟨-, -, hvalid⟩ := Settings.ofArguments_eq_ok.mp hs
  refine ⟨_, discoverScripts_eq ht hroot hplace hfolder _,
    discovery_scriptFiles ht hvalid.scriptExtension, fun t' ht' hfolder' hsame => ?_,
    fun _ => endsIn_lowercase, fun hplain name hname => endsIn_plain hplain hname⟩
  rw [discoverScripts_eq ht' hroot hplace hfolder', discoverScripts_eq ht hroot hplace hfolder,
    scriptFiles_congr ht ht' hvalid.scriptExtension hsame]

end Discovering

theorem scriptFiles_of_ordered {t : Tree} {place : List String} {extension : String}
    {found : List (List String × List UInt8)}
    (h : (t.filesBelow place).filter (fun f =>
      hasSuffix (lowercase extension.toList) (f.1.getLast?.getD "")) = found)
    (hordered : found.Pairwise fun f g => namesBefore f.1 g.1 = true) :
    scriptFiles t place extension = found := by
  rw [scriptFiles, h, List.mergeSort_of_pairwise hordered]

/-- Names with several dots, in capitals, without a stem or a dot, in several folders. The text of
the first path comes after that of the second. -/
def mixedTree : Tree :=
  ⟨[(["s", "a", "d.old.SK"], .file [0x61]), (["s", "a", "Sk"], .folder),
    (["s", "a.b", "c.sk"], .file []), (["s", ".sk"], .file []), (["s", "sk"], .file []),
    (["s", "e.sk.txt"], .file []), (["f.sk"], .file [])]⟩

theorem discoverScripts_exact_mixed :
    Settings.ofArguments [] = .ok Settings.default ∧ mixedTree.Proper ∧
      Char.ofNat 0 ∉ "s".toList ∧ Path.resolve ⟨.single, []⟩ (Path.parse "s") = ⟨.single, ["s"]⟩ ∧
      mixedTree.node? ["s"] = some .folder ∧
      discoverScripts mixedTree ⟨.single, []⟩ "s" ".sk" =
        .ok ⟨[⟨"/s/a/d.old.SK", ["a"]⟩, ⟨"/s/a.b/c.sk", []⟩],
          [⟨.info, .loader, "Loading scripts from: /s"⟩]⟩ ∧
      Discovery mixedTree ["s"] ".sk" [⟨"/s/a/d.old.SK", ["a"]⟩, ⟨"/s/a.b/c.sk", []⟩] := by
  have hsettings : Settings.ofArguments [] = .ok Settings.default := rfl
  have hproper : mixedTree.Proper := by decide +kernel
  have hnul : Char.ofNat 0 ∉ "s".toList := by decide
  have hplace : Path.resolve ⟨.single, []⟩ (Path.parse "s") = ⟨.single, ["s"]⟩ := by decide +kernel
  have hfolder : mixedTree.node? ["s"] = some .folder := by decide +kernel
  have hfound : scriptFiles mixedTree ["s"] ".sk" =
      [(["s", "a", "d.old.SK"], [0x61]), (["s", "a.b", "c.sk"], [])] :=
    scriptFiles_of_ordered (by decide +kernel) (by decide +kernel)
  have heval := discoverScripts_eq hproper hnul hplace hfolder ".sk"
  rw [hfound] at heval
  obtain ⟨scripts, hscripts, hdiscovery, -, -⟩ :=
    discoverScripts_exact hsettings hproper hnul hplace hfolder
  obtain rfl : scripts = _ := congrArg Logged.value (Except.ok.inj (hscripts.symm.trans heval))
  exact ⟨hsettings, hproper, hnul, hplace, hfolder, heval, hdiscovery⟩

/-- A file whose name ends in a Kelvin sign. -/
def kelvinTree : Tree := ⟨[(["s", "a.s\u212a"], .file [])]⟩

/-- Files with nothing behind their last dot, and with two dots. -/
def archiveTree : Tree := ⟨[(["s", "a."], .file []), (["s", "a.tar.sk"], .file [])]⟩

/-- A letter that is no plain one may make a name end in the extension. A name that ends in a lone
dot or in an extension with two dots is passed over. -/
theorem discovery_of_foreign_letter :
    (Settings.ofArguments [] = .ok Settings.default ∧ kelvinTree.Proper ∧
      discoverScripts kelvinTree ⟨.single, []⟩ "s" Settings.default.scriptExtension =
        .ok ⟨[⟨"/s/a.s\u212a", []⟩], [⟨.info, .loader, "Loading scripts from: /s"⟩]⟩ ∧
      ¬ EndsIn (List.map Char.toLower) Settings.default.scriptExtension.toList "a.s\u212a".toList) ∧
    archiveTree.Proper ∧ ∀ extension ∈ [".", ".tar.sk"],
      (∃ s, Settings.ofArguments [("script_extension", .value (.text extension))] = .ok s ∧
        s.scriptExtension = extension) ∧
      discoverScripts archiveTree ⟨.single, []⟩ "s" extension =
        .ok ⟨[], [⟨.info, .loader, "Loading scripts from: /s"⟩]⟩ ∧
      EndsIn (List.map Char.toLower) extension.toList ("a" ++ extension).toList := by
  have hnul : Char.ofNat 0 ∉ "s".toList := by decide
  have hplace : Path.resolve ⟨.single, []⟩ (Path.parse "s") = ⟨.single, ["s"]⟩ := by decide +kernel
  constructor
  · have hproper : kelvinTree.Proper := by decide +kernel
    have hfound : scriptFiles kelvinTree ["s"] ".sk" = [(["s", "a.s\u212a"], [])] :=
      scriptFiles_of_ordered (by decide +kernel) (by decide +kernel)
    have heval := discoverScripts_eq hproper hnul hplace (by decide +kernel) ".sk"
    rw [hfound] at heval
    refine ⟨rfl, hproper, heval, ?_⟩
    rintro ⟨stem, ending, -, hname, hends⟩
    have hlast := congrArg (fun cs => (cs.map Char.toLower).getLast?) hname
    rw [List.map_append, hends, List.getLast?_append_of_ne_nil _ (by decide)] at hlast
    exact absurd hlast (by decide +kernel)
  · have hproper : archiveTree.Proper := by decide +kernel
    have hnone : ∀ extension ∈ [".", ".tar.sk"], scriptFiles archiveTree ["s"] extension = [] := by
      intro extension hextension
      rcases List.mem_pair.mp hextension with rfl | rfl
      · exact scriptFiles_of_ordered (by decide +kernel) List.Pairwise.nil
      · exact scriptFiles_of_ordered (by decide +kernel) List.Pairwise.nil
    refine ⟨hproper, fun extension hextension => ⟨?_, ?_, ?_⟩⟩
    · rcases List.mem_pair.mp hextension with rfl | rfl <;> exact ⟨_, rfl, rfl⟩
    · have heval := discoverScripts_eq hproper hnul hplace (by decide +kernel) extension
      rwa [hnone extension hextension] at heval
    · exact ⟨['a'], extension.toList, List.cons_ne_nil _ _, String.toList_append, rfl⟩

end ScriptProfiling
