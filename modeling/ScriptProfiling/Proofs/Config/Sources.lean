import ScriptProfiling.Config.Loading
import ScriptProfiling.Proofs.Catalog
import ScriptProfiling.Proofs.Partial

/-!
# What the sources of settings say

A source says of a setting what it holds under its name: a file the last entry of its table, a
variable what its text is read as. The files and the variables are collected one over the other;
what stands in the collection is what the most important of them says.
-/
namespace ScriptProfiling

/-- What a setting says of a threshold, if it is a table or complete thresholds. -/
def Setting.threshold? : Setting → String → Option Value
  | .value (.table fields), name => fields.lookup name
  | .value _, _ => none
  | .thresholds t, name => t.fields.lookup name

/-- Whether a value is a table. -/
def Value.isTable : Value → Bool
  | .table _ => true
  | _ => false

namespace Environment

variable (vars : Variables) (start : String)

/-- What the variable of a field is read as. -/
def fieldValue? (field : String × SettingKind) : Option Value :=
  (vars.lookup (variableName start field.1)).bind fun text => (parse text field.2).toOption.join

/-- What a variable says of the setting of a name. -/
def value? (kinds : List (String × SettingKind)) (name : String) : Option Value :=
  (kinds.lookup name).bind fun kind => fieldValue? vars start (name, kind)

/-- Whether the variable of each field, if it is set, has a text of the field's kind. -/
def Parses (kinds : List (String × SettingKind)) : Prop :=
  ∀ field ∈ kinds, ∀ text, vars.lookup (variableName start field.1) = some text →
    (parse text field.2).isOk = true

variable {vars start}

theorem isOk_readField {field : String × SettingKind} :
    (readField vars start field).isOk = true ↔
      ∀ text, vars.lookup (variableName start field.1) = some text →
        (parse text field.2).isOk = true := by
  unfold readField
  dsimp only
  cases vars.lookup (variableName start field.1) with
  | none => exact iff_of_true rfl nofun
  | some text =>
    have hall : (∀ other, some text = some other → (parse other field.2).isOk = true) ↔
        (parse text field.2).isOk = true := by simp
    rw [hall]
    dsimp only
    cases parse text field.2 with
    | error f => exact Iff.rfl
    | ok v => exact Iff.rfl

theorem isOk_readFields {kinds : List (String × SettingKind)} :
    (readFields vars start kinds).isOk = true ↔ Parses vars start kinds := by
  rw [readFields, isOk_map, isOk_mapM]
  exact forall₂_congr fun field _ => isOk_readField

instance (vars : Variables) (start : String) (kinds : List (String × SettingKind)) :
    Decidable (Parses vars start kinds) :=
  decidable_of_iff _ isOk_readFields

theorem readField_eq_ok {field : String × SettingKind} {entry : Option (String × Value)}
    (h : readField vars start field = .ok entry) :
    entry = (fieldValue? vars start field).map (field.1, ·) := by
  unfold readField at h
  unfold fieldValue?
  dsimp only at h
  cases htext : vars.lookup (variableName start field.1) with
  | none =>
    rw [htext] at h
    exact (Except.ok.inj h).symm
  | some text =>
    rw [htext] at h
    dsimp only at h
    cases hparse : parse text field.2 with
    | error f =>
      rw [hparse] at h
      cases h
    | ok v =>
      rw [hparse] at h
      rw [← Except.ok.inj h, Option.bind_some, hparse]
      rfl

theorem get?_readFields {kinds : List (String × SettingKind)} (hkinds : (kinds.map Prod.fst).Nodup)
    {found : List (String × Value)} (h : readFields vars start kinds = .ok found) (name : String) :
    (Catalog.ofList found).get? name = value? vars start kinds name := by
  obtain ⟨entries, hentries, rfl⟩ := map_eq_ok.mp h
  have hread : entries.map id =
      kinds.map fun field => (fieldValue? vars start field).map (field.1, ·) :=
    map_of_mapM (fun field _ entry hentry => readField_eq_ok hentry) hentries
  have hfound : entries.filterMap id =
      kinds.filterMap fun field => (fieldValue? vars start field).map (field.1, ·) := by
    rw [List.map_id] at hread
    rw [hread, List.filterMap_map]
    rfl
  have hnodup := Catalog.nodup_filterMap (fieldValue? vars start) hkinds
  rw [hfound, Catalog.get?, Catalog.entries_ofList hnodup, Catalog.lookup_filterMap _ name hkinds]
  rfl

end Environment

namespace Surroundings

variable (w : Surroundings)

/-- The table that stands at a path, if anything stands there. -/
def table? (path : String) : Option Toml.Table :=
  match w.files.present w.cwd path with
  | .ok true => (w.readTable path).toOption
  | _ => none

/-- The files that settings are looked for in, the most important first. -/
def configFiles (named : Option String) : List String :=
  named.toList ++ [w.projectFile.text] ++ (w.userFile.toOption.map Path.text).toList

/-- What the file at a path says. -/
def entryAt? (path name : String) : Option Value :=
  (w.table? path).bind fun fields => (Catalog.ofList fields).get? name

/-- The names that the file at a path sets. -/
def namesAt (path : String) : List String := ((w.table? path).getD []).map Prod.fst

/-- What the most important file says that says anything. -/
def fileRuling? (named : Option String) (name : String) : Option Value :=
  (w.configFiles named).findSome? fun path => w.entryAt? path name

/-- What a variable says of a setting. -/
def settingVariable? (name : String) : Option Value :=
  Environment.value? w.environment Environment.settingPrefix Settings.fieldKinds name

/-- What a variable says of a threshold. -/
def thresholdVariable? (name : String) : Option Value :=
  Environment.value? w.environment Environment.thresholdPrefix Thresholds.fieldKinds name

/-- Whether a file that may be missing can be read if it is there. -/
def Opens (path : String) : Prop :=
  ∃ present, w.files.present w.cwd path = .ok present ∧
    (present = true → (w.readTable path).isOk = true)

/-- Files and variables can be read, and a file that is named is there. -/
structure Readable (named : Option String) : Prop where
  user : ∃ path, w.userFile = .ok path ∧ w.Opens path.text
  project : w.Opens w.projectFile.text
  named : ∀ path ∈ named, w.files.present w.cwd path = .ok true ∧ w.Opens path
  settings : Environment.Parses w.environment Environment.settingPrefix Settings.fieldKinds
  thresholds : Environment.Parses w.environment Environment.thresholdPrefix Thresholds.fieldKinds

/-- What files hold under the name of the thresholds are tables. -/
def Tabular (named : Option String) : Prop :=
  ∀ path ∈ w.configFiles named, ∀ v, w.entryAt? path "thresholds" = some v →
    ∃ fields, v = .table fields

instance (path : String) : Decidable (w.Opens path) :=
  decidable_of_iff ((w.files.present w.cwd path).toOption.any
      fun present => !present || (w.readTable path).isOk) (by
    unfold Opens
    cases w.files.present w.cwd path with
    | error f => exact iff_of_false nofun nofun
    | ok present => cases present <;> simp [Except.toOption])

instance (named : Option String) : Decidable (w.Tabular named) :=
  decidable_of_iff (∀ path ∈ w.configFiles named,
      (w.entryAt? path "thresholds").all Value.isTable) (by
    refine forall₂_congr fun path _ => ?_
    cases w.entryAt? path "thresholds" with
    | none => exact iff_of_true rfl nofun
    | some v => cases v <;> simp [Value.isTable])

end Surroundings

namespace Settings

variable {w : Surroundings} {found found' : Collection}

theorem get?_update (found : Collection) (more : List (String × Setting)) (name : String) :
    (found.update more).get? name = ((Catalog.ofList more).get? name).or (found.get? name) :=
  Catalog.get?_foldl_put name more found

/-- Settings with the fields of a table, if there is one, filed over them. -/
def Collection.overlay (found : Collection) (fields : Option Toml.Table) : Collection :=
  found.update ((fields.getD []).map fun f => (f.1, .value f.2))

theorem get?_overlay (found : Collection) (path name : String) :
    (found.overlay (w.table? path)).get? name =
      ((w.entryAt? path name).map Setting.value).or (found.get? name) := by
  rw [Collection.overlay, get?_update, Catalog.get?_ofList_map, Surroundings.entryAt?]
  cases w.table? path <;> rfl

section Files

theorem addFile_eq_ok {label path : String} (hpresent : w.files.present w.cwd path = .ok true) :
    addFile w label path found = .ok found' ↔
      (w.readTable path).isOk = true ∧ found.overlay (w.table? path) = found' := by
  rw [Surroundings.table?, hpresent, addFile]
  cases w.readTable path with
  | error f => exact iff_of_false nofun fun h => Bool.false_ne_true h.1
  | ok fields =>
    have hoverlay : found.overlay (some fields) =
        found.update (fields.map fun f => (f.1, .value f.2)) := rfl
    simp [Except.isOk, Except.toBool, Except.toOption, hoverlay]

theorem addPresentFile_eq_ok {label path : String} :
    addPresentFile w label path found = .ok found' ↔
      w.Opens path ∧ found.overlay (w.table? path) = found' := by
  rw [addPresentFile, bind_eq_ok, Surroundings.Opens]
  cases hpresent : w.files.present w.cwd path with
  | error f => exact iff_of_false nofun nofun
  | ok present =>
    cases present with
    | true => simpa using addFile_eq_ok hpresent
    | false =>
      have habsent : found.overlay (w.table? path) = found := by
        rw [Surroundings.table?, hpresent]
        rfl
      rw [habsent]
      simp [pure, Except.pure]

theorem addNamedFile_eq_ok {path : String} :
    addNamedFile w path found = .ok found' ↔
      (w.files.present w.cwd path = .ok true ∧ w.Opens path) ∧
        found.overlay (w.table? path) = found' := by
  rw [addNamedFile, bind_eq_ok, Surroundings.Opens]
  cases hpresent : w.files.present w.cwd path with
  | error f => exact iff_of_false nofun nofun
  | ok present =>
    cases present with
    | true => simpa using addFile_eq_ok hpresent
    | false => simp [throw, throwThe, MonadExceptOf.throw]

theorem fileRuling?_eq {path : Path} (hpath : w.userFile = .ok path) (named : Option String)
    (name : String) :
    w.fileRuling? named name = ((named.bind fun path => w.entryAt? path name).or
      (w.entryAt? w.projectFile.text name)).or (w.entryAt? path.text name) := by
  have hcons : ∀ (path : String) (paths : List String),
      (path :: paths).findSome? (fun path => w.entryAt? path name) =
        (w.entryAt? path name).or (paths.findSome? fun path => w.entryAt? path name) := by
    intro path paths
    rw [List.findSome?_cons]
    cases w.entryAt? path name <;> rfl
  rw [Surroundings.fileRuling?, Surroundings.configFiles, hpath]
  cases named <;> simp [Except.toOption, hcons, Option.or_assoc]

theorem entryAt?_eq_none {path name : String} (h : name ∉ w.namesAt path) :
    w.entryAt? path name = none := by
  refine Option.eq_none_iff_forall_ne_some.mpr fun v hv => h ?_
  obtain ⟨fields, hfields, hv⟩ := Option.bind_eq_some_iff.mp hv
  rw [Surroundings.namesAt, hfields]
  exact List.mem_map_of_mem (Catalog.mem_of_get?_ofList hv)

/-- The user's file plays no part where the project's file sets all that it sets. -/
theorem fileRuling?_of_covered {named : Option String} {path : Path} (hpath : w.userFile = .ok path)
    (h : ∀ name ∈ w.namesAt path.text, (w.entryAt? w.projectFile.text name).isSome = true)
    (name : String) : w.fileRuling? named name =
      (named.bind fun path => w.entryAt? path name).or (w.entryAt? w.projectFile.text name) := by
  rw [fileRuling?_eq hpath, Option.or_assoc]
  by_cases hname : name ∈ w.namesAt path.text
  · rw [Option.or_of_isSome (h name hname)]
  · rw [entryAt?_eq_none hname, Option.or_none]

/-- What is collected from the files is what the most important of them says. -/
theorem get?_addFiles {named : Option String} (h : addFiles w named = .ok found) (name : String) :
    found.get? name = (w.fileRuling? named name).map .value := by
  obtain ⟨path, hpath, h⟩ := bind_eq_ok.mp h
  obtain ⟨user, huser, h⟩ := bind_eq_ok.mp h
  obtain ⟨project, hproject, h⟩ := bind_eq_ok.mp h
  obtain ⟨-, rfl⟩ := addPresentFile_eq_ok.mp huser
  obtain ⟨-, rfl⟩ := addPresentFile_eq_ok.mp hproject
  rw [fileRuling?_eq hpath, Option.map_or, Option.map_or]
  cases named with
  | none =>
    obtain rfl := pure_eq_ok.mp h
    rw [get?_overlay, get?_overlay, Catalog.get?_empty]
    simp
  | some path =>
    obtain ⟨-, rfl⟩ := addNamedFile_eq_ok.mp h
    rw [get?_overlay, get?_overlay, get?_overlay, Catalog.get?_empty]
    simp [Option.or_assoc]

theorem isOk_addFiles {named : Option String} (h : w.Readable named) :
    (addFiles w named).isOk = true := by
  obtain ⟨path, hpath, hopens⟩ := h.user
  have hadd : ∀ {label path : String} {found : Collection}, w.Opens path →
      addPresentFile w label path found = .ok (found.overlay (w.table? path)) :=
    fun hopens => addPresentFile_eq_ok.mpr ⟨hopens, rfl⟩
  refine isOk_bind.mpr ⟨path, hpath, isOk_bind.mpr ⟨_, hadd hopens, isOk_bind.mpr
    ⟨_, hadd h.project, ?_⟩⟩⟩
  cases named with
  | none => rfl
  | some path => exact isOk_iff.mpr ⟨_, addNamedFile_eq_ok.mpr ⟨h.named path rfl, rfl⟩⟩

end Files

section Thresholds

/-- Under the name of the thresholds there is a table or nothing. -/
def Collection.Tabular (found : Collection) : Prop :=
  ∀ x, found.get? "thresholds" = some x → ∃ fields, x = .value (.table fields)

/-- What a collection says of a threshold. -/
def Collection.threshold? (found : Collection) (name : String) : Option Value :=
  (found.get? "thresholds").bind (·.threshold? name)

theorem addThresholds_spec (extra : Toml.Table) (htabular : found.Tabular) :
    ∃ found', addThresholds extra found = .ok found' ∧ found'.Tabular ∧
      (∀ name, name ≠ "thresholds" → found'.get? name = found.get? name) ∧
      ∀ name, found'.threshold? name =
        ((Catalog.ofList extra).get? name).or (found.threshold? name) := by
  have hput : ∀ fields : Toml.Table, (∀ name, found.threshold? name = fields.lookup name) →
      let added := found.put "thresholds" (.value (.table
        (extra.foldl (fun fields f => Catalog.fileIn f.1 f.2 fields) fields)))
      Collection.Tabular added ∧ (∀ name, name ≠ "thresholds" → added.get? name = found.get? name) ∧
        ∀ name, Collection.threshold? added name =
          ((Catalog.ofList extra).get? name).or (found.threshold? name) := by
    intro fields hfields added
    refine ⟨fun x hx => ?_, fun name hname => ?_, fun name => ?_⟩
    · rw [Catalog.get?_put, if_pos rfl] at hx
      exact ⟨_, (Option.some.inj hx).symm⟩
    · rw [Catalog.get?_put, if_neg (Ne.symm hname)]
    · rw [Collection.threshold?, Catalog.get?_put, if_pos rfl, Option.bind_some, hfields,
        ← Catalog.lookup_eq, ← Catalog.lookup_foldl_fileIn, Catalog.lookup_eq]
      rfl
  unfold addThresholds
  dsimp only
  cases extra with
  | nil => exact ⟨found, rfl, htabular, fun _ _ => rfl, fun _ => rfl⟩
  | cons first rest =>
    rw [if_neg (by simp)]
    cases hfound : found.get? "thresholds" with
    | none =>
      refine ⟨_, rfl, hput [] fun name => ?_⟩
      rw [Collection.threshold?, hfound]
      rfl
    | some x =>
      obtain ⟨fields, rfl⟩ := htabular x hfound
      refine ⟨_, rfl, hput fields fun name => ?_⟩
      rw [Collection.threshold?, hfound]
      rfl

theorem addThresholds_cases {extra : Toml.Table} (h : addThresholds extra found = .ok found') :
    found' = found ∨ ∃ fields, found' = found.put "thresholds" (.value (.table fields)) := by
  unfold addThresholds at h
  dsimp only at h
  split at h
  · exact Or.inl (Except.ok.inj h).symm
  · split at h
    · exact Or.inr ⟨_, (Except.ok.inj h).symm⟩
    · exact Or.inr ⟨_, (Except.ok.inj h).symm⟩
    · cases h

end Thresholds

section Variables

/-- What files and variables together come to. -/
structure Collection.Gathers (found : Collection) (w : Surroundings) (named : Option String) :
    Prop where
  tabular : found.Tabular
  settings : ∀ name, name ≠ "thresholds" →
    found.get? name = ((w.settingVariable? name).or (w.fileRuling? named name)).map .value
  thresholds : ∀ name, found.threshold? name = (w.thresholdVariable? name).or
    ((w.fileRuling? named "thresholds").bind fun v => (Setting.value v).threshold? name)

/-- The files and then the variables. -/
def gather (w : Surroundings) (named : Option String) : Except Fault Collection :=
  addFiles w named >>= addVariables w

theorem tabular_addFiles {named : Option String} (htabular : w.Tabular named)
    (h : addFiles w named = .ok found) : found.Tabular := by
  intro x hx
  rw [get?_addFiles h] at hx
  obtain ⟨v, hv, rfl⟩ := Option.map_eq_some_iff.mp hx
  obtain ⟨path, hpath, hentry⟩ := List.exists_of_findSome?_eq_some hv
  obtain ⟨fields, rfl⟩ := htabular path hpath v hentry
  exact ⟨fields, rfl⟩

theorem settingVariable?_thresholds : w.settingVariable? "thresholds" = none := by
  have hkind : fieldKinds.lookup "thresholds" = some .table := by decide
  rw [Surroundings.settingVariable?, Environment.value?, hkind, Option.bind_some,
    Environment.fieldValue?]
  cases w.environment.lookup (Environment.variableName Environment.settingPrefix "thresholds") with
  | none => rfl
  | some text => rfl

/-- What is gathered is what the files say, with the thresholds of the variables added to it and
their settings filed over it. -/
theorem gather_eq_ok {named : Option String} (h : gather w named = .ok found) :
    ∃ files thresholds added, addFiles w named = .ok files ∧
      Environment.readFields w.environment Environment.thresholdPrefix Thresholds.fieldKinds =
        .ok thresholds ∧
      addThresholds thresholds files = .ok added ∧
      ∀ name, found.get? name =
        ((w.settingVariable? name).map Setting.value).or (added.get? name) := by
  obtain ⟨files, hfiles, h⟩ := bind_eq_ok.mp h
  obtain ⟨settings, hsettings, h⟩ := bind_eq_ok.mp h
  obtain ⟨thresholds, hthresholds, h⟩ := bind_eq_ok.mp h
  obtain ⟨added, hadded, h⟩ := bind_eq_ok.mp h
  obtain rfl := pure_eq_ok.mp h
  refine ⟨files, thresholds, added, hfiles, hthresholds, hadded, fun name => ?_⟩
  rw [get?_update, Catalog.get?_ofList_map, Environment.get?_readFields (by decide) hsettings]
  rfl

theorem get?_gather {named : Option String} (h : gather w named = .ok found) {name : String}
    (hname : name ≠ "thresholds") :
    found.get? name = ((w.settingVariable? name).or (w.fileRuling? named name)).map .value := by
  obtain ⟨files, thresholds, added, hfiles, -, hadded, hget⟩ := gather_eq_ok h
  have hkept : added.get? name = files.get? name := by
    rcases addThresholds_cases hadded with rfl | ⟨fields, rfl⟩
    · rfl
    · rw [Catalog.get?_put, if_neg (Ne.symm hname)]
  rw [hget, hkept, get?_addFiles hfiles, ← Option.map_or]

theorem gathers {named : Option String} (htabular : w.Tabular named)
    (h : gather w named = .ok found) : found.Gathers w named := by
  obtain ⟨files, thresholds, added, hfiles, hthresholds, hadded, hget⟩ := gather_eq_ok h
  obtain ⟨added', hadded', haddedTabular, -, hentries⟩ :=
    addThresholds_spec thresholds (tabular_addFiles htabular hfiles)
  obtain rfl := Except.ok.inj (hadded.symm.trans hadded')
  have hwhole : found.get? "thresholds" = added.get? "thresholds" := by
    rw [hget, settingVariable?_thresholds]
    rfl
  refine ⟨fun x hx => haddedTabular x (by rwa [hwhole] at hx), fun _ => get?_gather h,
    fun name => ?_⟩
  rw [Collection.threshold?, hwhole]
  change added.threshold? name = _
  rw [hentries, Environment.get?_readFields (by decide) hthresholds, Collection.threshold?,
    get?_addFiles hfiles, Option.bind_map]
  rfl

theorem isOk_gather {named : Option String} (htabular : w.Tabular named) (h : w.Readable named) :
    (gather w named).isOk = true := by
  obtain ⟨files, hfiles⟩ := isOk_iff.mp (isOk_addFiles h)
  obtain ⟨settings, hsettings⟩ := isOk_iff.mp (Environment.isOk_readFields.mpr h.settings)
  obtain ⟨thresholds, hthresholds⟩ := isOk_iff.mp (Environment.isOk_readFields.mpr h.thresholds)
  obtain ⟨added, hadded, -⟩ := addThresholds_spec thresholds (tabular_addFiles htabular hfiles)
  refine isOk_bind.mpr ⟨files, hfiles, isOk_bind.mpr ⟨settings, hsettings, isOk_bind.mpr
    ⟨thresholds, hthresholds, isOk_bind.mpr ⟨added, hadded, rfl⟩⟩⟩⟩

end Variables

end Settings
end ScriptProfiling
