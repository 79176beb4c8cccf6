import ScriptProfiling.Proofs.Config.Precedence

/-!
# Settings that cannot be loaded

Whatever is wrong with the sources is meant to be told as a failure of the configuration. Two
mistakes are not: a file that has something else than a table under the name of the thresholds
while a variable sets one of them, and an extension that is neither a text nor bytes. Besides, the
places of the files have to be known before anything can be read there.
-/
namespace ScriptProfiling

namespace Fault

/-- A failure of the configuration, or of the kind below it. -/
def OfConfiguration (f : Fault) : Prop :=
  ∃ cause, f = .failure cause ∧
    (cause.kind = .configuration ∨ cause.kind.parent? = some .configuration)

theorem ofConfiguration_configuration (message : String) :
    (configuration message).OfConfiguration := ⟨_, rfl, Or.inl rfl⟩

theorem ofConfiguration_of_cls {f : Fault} (h : f.cls = .failure .configuration) :
    f.OfConfiguration := by
  cases f with
  | failure cause => exact ⟨cause, rfl, Or.inl (FaultClass.failure.inj h)⟩
  | file cause path => cases cause <;> cases h
  | fileByBytes cause path => cases cause <;> cases h
  | _ => cases h

theorem isRefusal_ofKeyword (owner keyword : String) :
    (ofKeyword owner keyword).isRefusal = true := by
  unfold ofKeyword
  split <;> rfl

end Fault

/-- Whether a setting can be asked what it starts with. -/
def Setting.hasStart : Setting → Bool
  | .value (.text _) | .value (.bytes _) => true
  | _ => false

namespace Surroundings

variable (w : Surroundings) (named : Option String)

/-- What goes wrong when the places of the files are asked for. -/
def Unplaced (f : Fault) : Prop :=
  w.userFile = .error f ∨ ∃ path ∈ w.configFiles named, w.files.present w.cwd path = .error f

/-- A variable sets a threshold, and the most important file that says anything of the thresholds
has something else than a table of them. -/
structure Clash (v : Value) : Prop where
  told : ∃ name, (w.thresholdVariable? name).isSome = true
  held : w.fileRuling? named "thresholds" = some v
  notTable : v.isTable = false

end Surroundings

namespace Thresholds

theorem refuses_comparable (relation : String) (v : Value) (against : String) :
    FailsWith (·.isRefusal = true) (comparable relation v against) := by
  unfold comparable
  split
  · exact failsWith_ok _
  · exact failsWith_error rfl

theorem refuses_require (holds : Bool) (rule : String) :
    FailsWith (·.isRefusal = true) (require holds rule) := by
  unfold require
  split
  · exact failsWith_ok _
  · exact failsWith_error rfl

theorem refuses_checked {read : Except Fault Number} {breaks : Number → Bool} {rule : String}
    (hread : FailsWith (·.isRefusal = true) read) :
    FailsWith (·.isRefusal = true) (do
      let x ← read
      require (!breaks x) rule
      return x) :=
  hread.bind fun x _ => (refuses_require _ rule).bind fun _ _ => failsWith_ok x

theorem refuses_notNegative (args : Arguments) (name : String) :
    FailsWith (·.isRefusal = true) (notNegative args name) :=
  refuses_checked (refuses_comparable _ _ _)

theorem refuses_atLeastOne (args : Arguments) (name : String) :
    FailsWith (·.isRefusal = true) (atLeastOne args name) :=
  refuses_checked (refuses_comparable _ _ _)

theorem refuses_ofArguments (args : Arguments) :
    FailsWith (·.isRefusal = true) (ofArguments args) := by
  unfold ofArguments
  cases args.find? fun a => !fieldNames.contains a.1 with
  | some a => exact failsWith_error (Fault.isRefusal_ofKeyword _ _)
  | none =>
    refine (refuses_comparable _ _ _).bind fun slow _ => ?_
    refine (refuses_require _ _).bind fun _ _ => ?_
    refine (refuses_comparable _ _ _).bind fun verySlow _ => ?_
    refine (refuses_require _ _).bind fun _ _ => ?_
    refine (refuses_notNegative _ _).bind fun frequency _ => ?_
    refine (refuses_notNegative _ _).bind fun total _ => ?_
    refine (refuses_notNegative _ _).bind fun loops _ => ?_
    refine (refuses_notNegative _ _).bind fun waits _ => ?_
    refine (refuses_notNegative _ _).bind fun accesses _ => ?_
    refine (refuses_notNegative _ _).bind fun load _ => ?_
    refine (refuses_atLeastOne _ _).bind fun issues _ => ?_
    refine (refuses_atLeastOne _ _).bind fun slowest _ => ?_
    exact failsWith_ok _

end Thresholds

namespace Settings

variable {w : Surroundings} {named : Option String} {overrides : Arguments} {args : Arguments}
  {found found' : Collection} {t : Thresholds} {s : Settings} {x : Setting} {f : Fault}

section Checks

theorem refuses_comparable (relation : String) (args : Arguments) (name : String) :
    FailsWith (·.isRefusal = true) (comparable relation args name) := by
  unfold comparable
  dsimp only
  split
  · exact failsWith_ok _
  · exact failsWith_error rfl

theorem refuses_formatOf (x : Setting) : FailsWith (·.isRefusal = true) (formatOf x) := by
  unfold formatOf
  dsimp only
  split
  · exact failsWith_ok _
  · exact failsWith_error rfl

theorem extensionOf_of_hasStart (h : x.hasStart = false) :
    extensionOf x = .error (.noAttribute x.typeName "startswith") := by
  unfold extensionOf
  split
  · cases h
  · cases h
  · rfl

theorem fails_extensionOf (x : Setting) : FailsWith (fun f => f.isRefusal = true ∨
    x.hasStart = false ∧ f = .noAttribute x.typeName "startswith") (extensionOf x) := by
  cases hstart : x.hasStart with
  | false =>
    rw [extensionOf_of_hasStart hstart]
    exact failsWith_error (Or.inr ⟨rfl, rfl⟩)
  | true =>
    unfold extensionOf
    split
    · split
      · exact failsWith_ok _
      · exact failsWith_error (Or.inl rfl)
    · exact failsWith_error (Or.inl rfl)
    · next hnoText hnoBytes =>
      unfold Setting.hasStart at hstart
      split at hstart
      · exact absurd rfl (hnoText _)
      · exact absurd rfl (hnoBytes _)
      · cases hstart

/-- Settings that cannot be made are refused, unless the extension has no start. -/
theorem fails_ofArguments (args : Arguments) : FailsWith (fun f => f.isRefusal = true ∨
    (argument args "script_extension").hasStart = false ∧
      f = .noAttribute (argument args "script_extension").typeName "startswith")
    (ofArguments args) := by
  unfold ofArguments
  cases args.find? fun a => !fieldNames.contains a.1 with
  | some a => exact failsWith_error (Or.inl (Fault.isRefusal_ofKeyword _ _))
  | none =>
    have hchecked : ∀ {relation name rule : String} {breaks : Number → Bool},
        FailsWith (·.isRefusal = true) (do
          let x ← comparable relation args name
          Thresholds.require (!breaks x) rule
          return x) :=
      Thresholds.refuses_checked (refuses_comparable _ _ _)
    refine (fails_extensionOf _).bind fun ext _ => FailsWith.imp ?_ fun _ => Or.inl
    refine hchecked.bind fun interval _ => ?_
    refine hchecked.bind fun load _ => ?_
    refine hchecked.bind fun duration _ => ?_
    exact (refuses_formatOf _).bind fun format _ => failsWith_ok _

theorem ofArguments_of_hasStart (hknown : ∀ a ∈ args, a.1 ∈ fieldNames)
    (h : (argument args "script_extension").hasStart = false) :
    ofArguments args =
      .error (.noAttribute (argument args "script_extension").typeName "startswith") := by
  unfold ofArguments
  rw [find?_unknown_eq_none.mpr hknown, extensionOf_of_hasStart h]
  rfl

end Checks

section Sources

theorem fails_inConfiguration {α : Type} {start : String} {result : Except Fault α}
    {P : Fault → Prop} (h : FailsWith (fun f => f.isRefusal = true ∨ P f) result) :
    FailsWith (fun f => f.OfConfiguration ∨ P f) (inConfiguration start result) := by
  cases result with
  | ok a => exact failsWith_ok a
  | error f =>
    rw [inConfiguration]
    split
    · exact failsWith_error (Or.inl (Fault.ofConfiguration_configuration _))
    · next hrefused =>
      exact failsWith_error (Or.inr ((h f rfl).resolve_left hrefused))

theorem fails_addFile (label path : String) (found : Collection) :
    FailsWith Fault.OfConfiguration (addFile w label path found) := by
  unfold addFile
  split
  · exact failsWith_ok _
  · exact failsWith_error (Fault.ofConfiguration_configuration _)

theorem fails_present {path : String} (hpath : path ∈ w.configFiles named) :
    FailsWith (fun f => f.OfConfiguration ∨ w.Unplaced named f) (w.files.present w.cwd path) :=
  fun _ hf => Or.inr (Or.inr ⟨path, hpath, hf⟩)

theorem fails_addPresentFile {label path : String} (hpath : path ∈ w.configFiles named)
    (found : Collection) : FailsWith (fun f => f.OfConfiguration ∨ w.Unplaced named f)
      (addPresentFile w label path found) := by
  refine (fails_present hpath).bind fun present _ => ?_
  split
  · exact (fails_addFile label path found).imp fun _ => Or.inl
  · exact failsWith_ok found

theorem fails_addNamedFile {path : String} (hpath : path ∈ w.configFiles named)
    (found : Collection) : FailsWith (fun f => f.OfConfiguration ∨ w.Unplaced named f)
      (addNamedFile w path found) := by
  refine (fails_present hpath).bind fun present _ => ?_
  split
  · exact (fails_addFile _ path found).imp fun _ => Or.inl
  · exact failsWith_error (Or.inl (Fault.ofConfiguration_configuration _))

theorem fails_addFiles : FailsWith (fun f => f.OfConfiguration ∨ w.Unplaced named f)
    (addFiles w named) := by
  refine FailsWith.bind (fun f hf => Or.inr (Or.inl hf)) fun path hpath => ?_
  have huser : path.text ∈ w.configFiles named := by
    simp [Surroundings.configFiles, hpath, Except.toOption]
  refine (fails_addPresentFile huser _).bind fun user _ => ?_
  have hproject : w.projectFile.text ∈ w.configFiles named := by simp [Surroundings.configFiles]
  refine (fails_addPresentFile hproject _).bind fun project _ => ?_
  cases named with
  | none => exact failsWith_ok project
  | some name => exact fails_addNamedFile (by simp [Surroundings.configFiles]) project

theorem fails_readFields (vars : Environment.Variables) (start : String)
    (kinds : List (String × SettingKind)) :
    FailsWith Fault.OfConfiguration (Environment.readFields vars start kinds) := by
  refine (failsWith_mapM fun field _ => ?_).map
  unfold Environment.readField
  dsimp only
  split
  · exact failsWith_ok _
  · split
    · exact failsWith_ok _
    · exact failsWith_error ⟨_, rfl, Or.inr rfl⟩

theorem addThresholds_eq_error {extra : Toml.Table} :
    addThresholds extra found = .error f ↔ extra ≠ [] ∧ ∃ x, found.get? "thresholds" = some x ∧
      (∀ fields, x ≠ .value (.table fields)) ∧ f = .notAMapping x.typeName := by
  unfold addThresholds
  dsimp only
  cases extra with
  | nil =>
    constructor
    · intro h
      cases h
    · intro h
      exact absurd rfl h.1
  | cons first rest =>
    rw [if_neg (by simp)]
    split
    · next hnone =>
      constructor
      · intro h
        cases h
      · rintro ⟨-, x, hx, -, -⟩
        cases hnone.symm.trans hx
    · next fields htable =>
      constructor
      · intro h
        cases h
      · rintro ⟨-, x, hx, hnot, -⟩
        exact absurd (Option.some.inj (hx.symm.trans htable)) (hnot fields)
    · next x hnot hx =>
      constructor
      · intro h
        exact ⟨List.cons_ne_nil _ _, x, hx, hnot, (Except.error.inj h).symm⟩
      · rintro ⟨-, y, hy, -, rfl⟩
        obtain rfl := Option.some.inj (hx.symm.trans hy)
        rfl

theorem isTable_eq_false {v : Value} :
    v.isTable = false ↔ ∀ fields, Setting.value v ≠ .value (.table fields) := by
  cases v <;> simp [Value.isTable]

theorem exists_thresholdVariable? {thresholds : List (String × Value)}
    (h : Environment.readFields w.environment Environment.thresholdPrefix Thresholds.fieldKinds =
      .ok thresholds) :
    (∃ name, (w.thresholdVariable? name).isSome = true) ↔ thresholds ≠ [] := by
  have hname : ∀ name, (w.thresholdVariable? name).isSome = true ↔
      name ∈ thresholds.map Prod.fst := by
    intro name
    rw [← Catalog.isSome_get?_ofList, Environment.get?_readFields (by decide) h]
    rfl
  simp only [hname]
  cases thresholds with
  | nil => simp
  | cons first rest => exact iff_of_true ⟨first.1, List.mem_cons_self⟩ (List.cons_ne_nil _ _)

theorem fails_gather : FailsWith (fun f => f.OfConfiguration ∨ w.Unplaced named f ∨
    ∃ v, w.Clash named v ∧ f = .notAMapping v.typeName) (gather w named) := by
  refine (fails_addFiles.imp fun f hf => hf.imp_right Or.inl).bind fun files hfiles => ?_
  refine ((fails_readFields _ _ _).imp fun _ => Or.inl).bind fun settings _ => ?_
  refine ((fails_readFields _ _ _).imp fun _ => Or.inl).bind fun thresholds hthresholds => ?_
  refine FailsWith.bind (fun f hf => ?_) fun added _ => failsWith_ok _
  obtain ⟨hextra, x, hx, hnot, rfl⟩ := addThresholds_eq_error.mp hf
  rw [get?_addFiles hfiles] at hx
  obtain ⟨v, hv, rfl⟩ := Option.map_eq_some_iff.mp hx
  exact Or.inr (Or.inr
    ⟨v, ⟨(exists_thresholdVariable? hthresholds).mpr hextra, hv, isTable_eq_false.mpr hnot⟩, rfl⟩)

theorem gather_of_clash {v : Value} (h : w.Readable named) (hclash : w.Clash named v) :
    gather w named = .error (.notAMapping v.typeName) := by
  obtain ⟨files, hfiles⟩ := isOk_iff.mp (isOk_addFiles h)
  obtain ⟨settings, hsettings⟩ := isOk_iff.mp (Environment.isOk_readFields.mpr h.settings)
  obtain ⟨thresholds, hthresholds⟩ := isOk_iff.mp (Environment.isOk_readFields.mpr h.thresholds)
  have hadd : addThresholds thresholds files = .error (.notAMapping v.typeName) := by
    refine addThresholds_eq_error.mpr ⟨(exists_thresholdVariable? hthresholds).mp hclash.told,
      .value v, ?_, isTable_eq_false.mp hclash.notTable, rfl⟩
    rw [get?_addFiles hfiles, hclash.held]
    rfl
  rw [gather, hfiles, ok_bind, addVariables, hsettings, ok_bind, hthresholds, ok_bind, hadd]
  rfl

end Sources

section Load

/-- How a table of thresholds that cannot be made is told of. -/
def tableStart : String := "Invalid [thresholds] config: "

/-- Only thresholds of a table can be wrong. -/
theorem completeThresholds_of_limits (h : found.limits = .error f) :
    completeThresholds found = .error (.configuration (tableStart ++ f.message)) := by
  revert h
  unfold completeThresholds Collection.limits
  dsimp only
  cases found.get? "thresholds" with
  | none =>
    intro h
    cases h
  | some x =>
    cases x with
    | thresholds complete =>
      intro h
      cases h
    | value v =>
      cases v with
      | table fields =>
        dsimp only
        intro h
        have hrefused : f.isRefusal = true := Thresholds.refuses_ofArguments fields f h
        rw [h, inConfiguration, if_pos hrefused]
        rfl
      | _ =>
        intro h
        cases h

theorem load_of_limits (hgather : gather w named = .ok found)
    (hlimits : (found.update overrides).limits = .error f) :
    load w named overrides = .error (.configuration (tableStart ++ f.message)) := by
  rw [load_eq, hgather, ok_bind, completeThresholds_of_limits hlimits]
  rfl

theorem fails_completeThresholds (found : Collection) :
    FailsWith Fault.OfConfiguration (completeThresholds found) := by
  cases hlimits : found.limits with
  | error f =>
    rw [completeThresholds_of_limits hlimits]
    exact failsWith_error (Fault.ofConfiguration_configuration _)
  | ok t =>
    obtain ⟨args, hargs, -⟩ := (completeThresholds_spec found).2 t hlimits
    rw [hargs]
    exact failsWith_ok args

theorem ruling_of_hasStart (h : Completes (found.update overrides) t args)
    (hgather : gather w named = .ok found)
    (hstart : (argument args "script_extension").hasStart = false) :
    w.ruling? named overrides "script_extension" = some (argument args "script_extension") := by
  have hlookup : args.lookup "script_extension" = w.ruling? named overrides "script_extension" := by
    rw [h.others _ (by decide), get?_update_gather hgather (by decide)]
  unfold argument at hstart ⊢
  rw [hlookup] at hstart ⊢
  cases hruling : w.ruling? named overrides "script_extension" with
  | some x => rfl
  | none =>
    rw [hruling] at hstart
    cases hstart

/-- What loading settings fails with. -/
theorem fails_load : FailsWith (fun f => f.OfConfiguration ∨ w.Unplaced named f ∨
    (∃ v, w.Clash named v ∧ f = .notAMapping v.typeName) ∨
    ∃ x, w.ruling? named overrides "script_extension" = some x ∧ x.hasStart = false ∧
      f = .noAttribute x.typeName "startswith") (load w named overrides) := by
  rw [load_eq]
  refine (fails_gather.imp fun f hf => ?_).bind fun found hgather => ?_
  · exact hf.imp_right fun hf => hf.imp_right Or.inl
  refine ((fails_completeThresholds _).imp fun _ => Or.inl).bind fun args hargs => ?_
  obtain ⟨t, -, hcompletes⟩ := completeThresholds_eq_ok hargs
  refine (fails_inConfiguration (fails_ofArguments args)).imp fun f hf => ?_
  refine hf.imp_right fun ⟨hstart, hfault⟩ => Or.inr (Or.inr ?_)
  exact ⟨_, ruling_of_hasStart hcompletes hgather hstart, hstart, hfault⟩

theorem completes_of_extension {x y : Setting}
    (hgather : gather w named = .ok found)
    (ht : (found.update (overrides ++ [("script_extension", y)])).limits = .ok t)
    (hcompletes : Completes (found.update (overrides ++ [("script_extension", y)])) t args)
    (hknown : ∀ a ∈ args, a.1 ∈ fieldNames)
    (hruling : w.ruling? named overrides "script_extension" = some x) :
    ∃ args', completeThresholds (found.update overrides) = .ok args' ∧
      (∀ a ∈ args', a.1 ∈ fieldNames) ∧ argument args' "script_extension" = x := by
  have hother : ∀ name, name ≠ "script_extension" →
      (found.update (overrides ++ [("script_extension", y)])).get? name =
        (found.update overrides).get? name := by
    intro name hname
    rw [get?_update, get?_update, Catalog.ofList_append_singleton, Catalog.get?_put,
      if_neg (Ne.symm hname)]
  have hlimits : (found.update overrides).limits = .ok t := by
    rw [← ht]
    unfold Collection.limits
    rw [hother _ (by decide)]
  obtain ⟨args', hargs', hcompletes'⟩ := (completeThresholds_spec _).2 t hlimits
  refine ⟨args', hargs', hcompletes'.known_iff.mpr fun name hsome => ?_, ?_⟩
  · by_cases hname : name = "script_extension"
    · rw [hname]
      decide
    · rw [← hother name hname] at hsome
      exact hcompletes.known_iff.mp hknown name hsome
  · unfold argument
    rw [hcompletes'.others _ (by decide), get?_update_gather hgather (by decide), hruling]

end Load

/-- Settings that cannot be loaded fail as a configuration, unless the place of a file cannot be
asked for or one of two mistakes is made: a variable of a threshold meets no table, and an extension
has no start. The first mistake always goes through where the sources can be read, and the second
one wherever any other extension would have made settings. -/
theorem load_failure (w : Surroundings) (named : Option String) (overrides : Arguments) :
    (∀ f, load w named overrides = .error f → f.OfConfiguration ∨ w.Unplaced named f ∨
      (∃ v, w.Clash named v ∧ f = .notAMapping v.typeName) ∨
      ∃ x, w.ruling? named overrides "script_extension" = some x ∧ x.hasStart = false ∧
        f = .noAttribute x.typeName "startswith") ∧
    (∀ v, w.Readable named → w.Clash named v →
      load w named overrides = .error (.notAMapping v.typeName)) ∧
    ∀ x text s, w.ruling? named overrides "script_extension" = some x → x.hasStart = false →
      load w named (overrides ++ [("script_extension", .value (.text text))]) = .ok s →
      load w named overrides = .error (.noAttribute x.typeName "startswith") := by
  refine ⟨fails_load, fun v hreadable hclash => ?_, fun x text s hruling hstart hs => ?_⟩
  · rw [load_eq, gather_of_clash hreadable hclash]
    rfl
  · obtain ⟨found, t, args, hgather, ht, hcompletes, hargs⟩ := load_eq_ok hs
    have hknown := (ofArguments_eq_ok.mp hargs).1
    obtain ⟨args', hargs', hknown', rfl⟩ :=
      completes_of_extension hgather ht hcompletes hknown hruling
    rw [load_eq, hgather, ok_bind, hargs', ok_bind, ofArguments_of_hasStart hknown' hstart]
    rfl

/-- A project file with a number for the thresholds and another one for the extension. -/
def numbered : Surroundings where
  files := ⟨[(["work", "skript-profiler.toml"],
    .file (encodeUtf8 "thresholds = 5\nscript_extension = 7\n"))]⟩
  cwd := ⟨.single, ["work"]⟩
  home := "/home/ada"
  environment := []

/-- The number for the thresholds goes through if a variable sets one of them, and the number for
the extension if none does. An extension that is given instead and has no dot is refused. -/
theorem load_failure_numbered :
    let told := { numbered with environment := [("SKPROFILE_THRESHOLDS_LONG_WAIT_TICKS", "30")] }
    load told none [] = .error (.notAMapping "int") ∧
    load numbered none [] = .error (.noAttribute "int" "startswith") ∧
    ∃ f, load numbered none [("script_extension", .value (.text "sk"))] = .error f ∧
      f.OfConfiguration := by
  intro told
  refine ⟨?_, ?_, ?_⟩
  · obtain ⟨-, hclash, -⟩ := load_failure told none []
    have huser : told.userFile = .ok ⟨.single, ["home", "ada", ".skript-profiler.toml"]⟩ :=
      toOption_eq_some.mp (by decide +kernel)
    have hreadable : told.Readable none :=
      ⟨⟨_, huser, by decide +kernel⟩, by decide +kernel, nofun, by decide +kernel,
        by decide +kernel⟩
    have hheld : ∃ v, told.fileRuling? none "thresholds" = some v ∧ v.number? = some (.int 5) := by
      decide +kernel
    obtain ⟨v, hv, hnumber⟩ := hheld
    obtain rfl := Value.number?_eq_some.mp hnumber
    exact hclash _ hreadable ⟨⟨"long_wait_ticks", by decide +kernel⟩, hv, rfl⟩
  · obtain ⟨-, -, hextension⟩ := load_failure numbered none []
    have hruling : ∃ x, numbered.ruling? none [] "script_extension" = some x ∧
        x.number? = some (.int 7) := by decide +kernel
    obtain ⟨x, hx, hnumber⟩ := hruling
    obtain rfl := Setting.number?_eq_some.mp hnumber
    obtain ⟨s, hs⟩ := isOk_iff.mp (show
      (load numbered none [("script_extension", .value (.text ".sk"))]).isOk = true by
        decide +kernel)
    exact hextension _ ".sk" s hx rfl hs
  · have hrefused :
        (load numbered none [("script_extension", .value (.text "sk"))]).isOk = false := by
      decide +kernel
    cases hload : load numbered none [("script_extension", .value (.text "sk"))] with
    | ok s =>
      rw [hload] at hrefused
      cases hrefused
    | error f =>
      refine ⟨f, rfl, ?_⟩
      rcases (load_failure numbered none _).1 f hload with
        hours | hplace | ⟨v, ⟨⟨name, htold⟩, -, -⟩, -⟩ | ⟨x, hx, hstart, -⟩
      · exact hours
      · have huser : numbered.userFile.isOk = true := by decide +kernel
        have hpresent : ∀ path ∈ numbered.configFiles none,
            (numbered.files.present numbered.cwd path).isOk = true := by decide +kernel
        rcases hplace with hf | ⟨path, hpath, hf⟩
        · rw [hf] at huser
          cases huser
        · have hok := hpresent path hpath
          rw [hf] at hok
          cases hok
      · have hnone : numbered.thresholdVariable? name = none := by
          unfold Surroundings.thresholdVariable? Environment.value?
          cases Thresholds.fieldKinds.lookup name <;> rfl
        rw [hnone] at htold
        cases htold
      · obtain rfl := Option.some.inj hx
        cases hstart

end Settings
end ScriptProfiling
