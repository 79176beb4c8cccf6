import ScriptProfiling.Proofs.Config.Assembly
import ScriptProfiling.Proofs.Config.Sources

/-!
# Which source rules

Six sources may set a setting: the caller, a variable, the named file, the project's file, the
user's file and the defaults. The most important one that does rules. Thresholds are ruled apart
from the rest: the caller's replace all others, variables rule one by one, and of the files only
the most important that has a table of them counts.
-/
namespace ScriptProfiling

namespace Surroundings

variable (w : Surroundings) (named : Option String) (overrides : Settings.Arguments)

/-- What the sources say of a setting other than the thresholds. -/
def ruling? (name : String) : Option Setting :=
  ((Catalog.ofList overrides).get? name).or
    (((w.settingVariable? name).or (w.fileRuling? named name)).map .value)

/-- What the sources say of a threshold. -/
def thresholdRuling? (name : String) : Option Value :=
  match (Catalog.ofList overrides).get? "thresholds" with
  | some x => x.threshold? name
  | none => (w.thresholdVariable? name).or
      ((w.fileRuling? named "thresholds").bind fun v => (Setting.value v).threshold? name)

end Surroundings

namespace Settings

variable {w : Surroundings} {named : Option String} {overrides : Arguments}
  {found found' : Collection} {args : Arguments} {t : Thresholds} {s : Settings}

theorem inConfiguration_eq_ok {α : Type} {start : String} {result : Except Fault α} {x : α} :
    inConfiguration start result = .ok x ↔ result = .ok x := by
  cases result with
  | ok y => exact Iff.rfl
  | error f =>
    rw [inConfiguration]
    split <;> exact iff_of_false nofun nofun

section Completion

/-- The thresholds that a collection comes to. -/
def Collection.limits (found : Collection) : Except Fault Thresholds :=
  match found.get? "thresholds" with
  | some (.value (.table fields)) => Thresholds.ofArguments fields
  | some (.thresholds t) => .ok t
  | _ => .ok .default

/-- Arguments that say what a collection says, but of the thresholds that they are complete. -/
structure Completes (found : Collection) (t : Thresholds) (args : Arguments) : Prop where
  thresholds : argument args "thresholds" = .thresholds t
  others : ∀ name, name ≠ "thresholds" → args.lookup name = found.get? name

theorem completes (found : Collection) (t : Thresholds) :
    Completes found t (found.entries.filter (·.1 != "thresholds") ++
      [("thresholds", .thresholds t)]) := by
  refine ⟨?_, fun name hname => ?_⟩
  · rw [argument_eq, List.lookup_append, Catalog.lookup_filter_bne, if_pos rfl]
    rfl
  · have hne : (name == "thresholds") = false := beq_eq_false_iff_ne.mpr hname
    rw [List.lookup_append, Catalog.lookup_filter_bne, if_neg hname, List.lookup_cons, hne,
      Catalog.get?, Catalog.lookup_eq]
    simp

theorem completes_default (found : Collection) :
    Completes found .default (found.entries.filter (·.1 != "thresholds")) := by
  refine ⟨?_, fun name hname => ?_⟩
  · rw [argument_eq, Catalog.lookup_filter_bne, if_pos rfl]
    rfl
  · rw [Catalog.lookup_filter_bne, if_neg hname, Catalog.get?, Catalog.lookup_eq]

theorem completeThresholds_spec (found : Collection) :
    (completeThresholds found).isOk = found.limits.isOk ∧
    ∀ t, found.limits = .ok t →
      ∃ args, completeThresholds found = .ok args ∧ Completes found t args := by
  unfold completeThresholds Collection.limits
  dsimp only
  cases found.get? "thresholds" with
  | none =>
    refine ⟨rfl, fun t ht => ?_⟩
    obtain rfl := Except.ok.inj ht
    exact ⟨_, rfl, completes_default found⟩
  | some x =>
    cases x with
    | thresholds complete =>
      refine ⟨rfl, fun t ht => ?_⟩
      obtain rfl := Except.ok.inj ht
      exact ⟨_, rfl, completes found complete⟩
    | value v =>
      cases v with
      | table fields =>
        dsimp only
        refine ⟨?_, fun t ht => ?_⟩
        · cases hlimits : Thresholds.ofArguments fields with
          | ok t => rfl
          | error f =>
            rw [inConfiguration]
            split <;> rfl
        · rw [ht]
          exact ⟨_, rfl, completes found t⟩
      | _ =>
        refine ⟨rfl, fun t ht => ?_⟩
        obtain rfl := Except.ok.inj ht
        exact ⟨_, rfl, completes_default found⟩

theorem completeThresholds_eq_ok (h : completeThresholds found = .ok args) :
    ∃ t, found.limits = .ok t ∧ Completes found t args := by
  obtain ⟨hboth, hcompletes⟩ := completeThresholds_spec found
  have hok : found.limits.isOk = true := by
    rw [← hboth, h]
    rfl
  obtain ⟨t, ht⟩ := isOk_iff.mp hok
  obtain ⟨args', hargs', hcomplete⟩ := hcompletes t ht
  obtain rfl := Except.ok.inj (h.symm.trans hargs')
  exact ⟨t, ht, hcomplete⟩

end Completion

section Limits

/-- A collection without complete thresholds makes them of what it says of each. -/
theorem limits_of_tabular (h : found.Tabular) :
    ∃ fields, found.limits = Thresholds.ofArguments fields ∧
      ∀ name, fields.lookup name = found.threshold? name := by
  unfold Collection.limits Collection.threshold?
  cases hfound : found.get? "thresholds" with
  | none => exact ⟨[], rfl, fun _ => rfl⟩
  | some x =>
    obtain ⟨fields, rfl⟩ := h x hfound
    exact ⟨fields, rfl, fun _ => rfl⟩

theorem lookup_limits (h : ∀ x, found.get? "thresholds" = some x →
      (∃ fields, x = .value (.table fields)) ∨ ∃ t, x = .thresholds t)
    (ht : found.limits = .ok t) (name : String) :
    t.fields.lookup name =
      (found.threshold? name).or (Thresholds.default.fields.lookup name) := by
  unfold Collection.limits at ht
  unfold Collection.threshold?
  cases hfound : found.get? "thresholds" with
  | none =>
    rw [hfound] at ht
    obtain rfl := Except.ok.inj ht
    rfl
  | some x =>
    rw [hfound] at ht
    rcases h x hfound with ⟨fields, rfl⟩ | ⟨complete, rfl⟩
    · exact Thresholds.lookup_fields ht name
    · obtain rfl := Except.ok.inj ht
      exact (Thresholds.lookup_fields_or complete name).symm

end Limits

section Load

theorem load_eq (w : Surroundings) (named : Option String) (overrides : Arguments) :
    load w named overrides = gather w named >>= fun found =>
      completeThresholds (found.update overrides) >>= fun args =>
        inConfiguration "Invalid configuration: " (ofArguments args) := by
  unfold load gather
  simp only [bind_assoc]

/-- Of the collection that settings are made of, each entry is ruled by the sources. -/
structure Ruled (w : Surroundings) (named : Option String) (overrides : Arguments)
    (found : Collection) : Prop where
  settings : ∀ name, name ≠ "thresholds" → found.get? name = w.ruling? named overrides name
  thresholds : ∀ name, found.threshold? name = w.thresholdRuling? named overrides name
  tabular : (Catalog.ofList overrides).get? "thresholds" = none → found.Tabular

theorem get?_update_gather (h : gather w named = .ok found) {name : String}
    (hname : name ≠ "thresholds") :
    (found.update overrides).get? name = w.ruling? named overrides name := by
  rw [get?_update, get?_gather h hname]
  rfl

theorem ruled_update (h : found.Gathers w named) (overrides : Arguments) :
    Ruled w named overrides (found.update overrides) := by
  refine ⟨fun name hname => ?_, fun name => ?_, fun hnone x hx => ?_⟩
  · rw [get?_update, h.settings name hname]
    rfl
  · rw [Collection.threshold?, get?_update, Surroundings.thresholdRuling?]
    cases (Catalog.ofList overrides).get? "thresholds" with
    | some x => rfl
    | none => exact h.thresholds name
  · rw [get?_update, hnone, Option.none_or] at hx
    exact h.tabular x hx

theorem load_eq_ok (h : load w named overrides = .ok s) :
    ∃ found t args, gather w named = .ok found ∧ (found.update overrides).limits = .ok t ∧
      Completes (found.update overrides) t args ∧ ofArguments args = .ok s := by
  rw [load_eq] at h
  obtain ⟨found, hgather, h⟩ := bind_eq_ok.mp h
  obtain ⟨args, hargs, h⟩ := bind_eq_ok.mp h
  obtain ⟨t, ht, hcomplete⟩ := completeThresholds_eq_ok hargs
  exact ⟨found, t, args, hgather, ht, hcomplete, inConfiguration_eq_ok.mp h⟩

theorem Completes.known_iff (h : Completes found t args) :
    (∀ a ∈ args, a.1 ∈ fieldNames) ↔
      ∀ name, (found.get? name).isSome = true → name ∈ fieldNames := by
  constructor
  · intro hknown name hsome
    by_cases hname : name = "thresholds"
    · rw [hname]
      decide
    · rw [← h.others name hname, ← mem_map_fst_iff] at hsome
      obtain ⟨a, ha, rfl⟩ := List.mem_map.mp hsome
      exact hknown a ha
  · intro hknown a ha
    by_cases hname : a.1 = "thresholds"
    · rw [hname]
      decide
    · refine hknown a.1 ?_
      rw [← h.others a.1 hname, ← mem_map_fst_iff]
      exact List.mem_map_of_mem ha

theorem Completes.ofArguments_congr {args' : Arguments} (h : Completes found t args)
    (h' : Completes found' t args')
    (hsame : ∀ name, name ≠ "thresholds" → found'.get? name = found.get? name)
    (hargs : ofArguments args = .ok s) : ofArguments args' = .ok s := by
  refine Settings.ofArguments_congr (h'.known_iff.mpr fun name hsome => ?_) (fun name => ?_) hargs
  · by_cases hname : name = "thresholds"
    · rw [hname]
      decide
    · rw [hsame name hname] at hsome
      exact h.known_iff.mp (ofArguments_eq_ok.mp hargs).1 name hsome
  · by_cases hname : name = "thresholds"
    · rw [hname, h'.thresholds, h.thresholds]
    · rw [argument_eq, argument_eq, h'.others name hname, hsame name hname, h.others name hname]

/-- Thresholds that the caller gives are taken as they are, and others are made of what is said
of each. -/
theorem limits_congr {w' : Surroundings} {named' : Option String} {base base' : Collection}
    (h : Ruled w named overrides (base.update overrides))
    (h' : Ruled w' named' overrides (base'.update overrides))
    (hsame : ∀ name, w'.thresholdRuling? named' overrides name =
      w.thresholdRuling? named overrides name)
    (ht : (base.update overrides).limits = .ok t) : (base'.update overrides).limits = .ok t := by
  cases hoverride : (Catalog.ofList overrides).get? "thresholds" with
  | some x =>
    have hget : ∀ base : Collection, (base.update overrides).get? "thresholds" = some x := by
      intro base
      rw [get?_update, hoverride, Option.some_or]
    rw [Collection.limits, hget] at ht
    rw [Collection.limits, hget]
    exact ht
  | none =>
    obtain ⟨fields, hfields, hlookup⟩ := limits_of_tabular (h.tabular hoverride)
    obtain ⟨fields', hfields', hlookup'⟩ := limits_of_tabular (h'.tabular hoverride)
    rw [hfields] at ht
    rw [hfields']
    refine Thresholds.ofArguments_congr (fun name => ?_) ht
    rw [hlookup', hlookup, h'.thresholds, h.thresholds, hsame]

end Load

/-- Whenever settings are loaded, each is what the most important source that sets it says, and
so is each threshold. What less important sources say plays no part, in range or not: of other
files and variables that can be read and that leave the same sources ruling, the same settings are
loaded. -/
theorem load_precedence (htabular : w.Tabular named)
    (hoverride : ∀ x, (Catalog.ofList overrides).get? "thresholds" = some x →
      (∃ fields, x = .value (.table fields)) ∨ ∃ t, x = .thresholds t)
    (h : load w named overrides = .ok s) :
    (∀ name, name ≠ "thresholds" → s.fields.lookup name =
      ((w.ruling? named overrides name).or (default.fields.lookup name)).map
        fun x => .value x.toValue) ∧
    (∃ t, s.thresholds = .thresholds t ∧ ∀ name, t.fields.lookup name =
      (w.thresholdRuling? named overrides name).or (Thresholds.default.fields.lookup name)) ∧
    ∀ (w' : Surroundings) (named' : Option String), w'.Readable named' → w'.Tabular named' →
      (∀ name, name ≠ "thresholds" →
        w'.ruling? named' overrides name = w.ruling? named overrides name) →
      (∀ name, w'.thresholdRuling? named' overrides name =
        w.thresholdRuling? named overrides name) →
      load w' named' overrides = .ok s := by
  obtain ⟨found, t, args, hgather, ht, hcompletes, hargs⟩ := load_eq_ok h
  have hgathers := gathers htabular hgather
  have hruled := ruled_update hgathers overrides
  refine ⟨fun name hname => ?_, ⟨t, ?_, fun name => ?_⟩, ?_⟩
  · have hkept : kept name = fun x => .value x.toValue := funext fun x => if_neg hname
    rw [lookup_fields hargs, hcompletes.others name hname, hruled.settings name hname, hkept]
  · rw [thresholds_ofArguments hargs, hcompletes.thresholds]
  · have hshape : ∀ x, (found.update overrides).get? "thresholds" = some x →
        (∃ fields, x = .value (.table fields)) ∨ ∃ t, x = .thresholds t := by
      intro x hx
      rw [get?_update] at hx
      rcases Option.or_eq_some_iff.mp hx with hx | ⟨-, hx⟩
      · exact hoverride x hx
      · exact Or.inl (hgathers.tabular x hx)
    rw [lookup_limits hshape ht, hruled.thresholds]
  · intro w' named' hreadable htabular' hsettings hthresholds
    obtain ⟨found', hgather'⟩ := isOk_iff.mp (isOk_gather htabular' hreadable)
    have hruled' := ruled_update (gathers htabular' hgather') overrides
    have ht' := limits_congr hruled hruled' hthresholds ht
    obtain ⟨args', hargs', hcompletes'⟩ := (completeThresholds_spec _).2 t ht'
    have hsame : ∀ name, name ≠ "thresholds" → (found'.update overrides).get? name =
        (found.update overrides).get? name := by
      intro name hname
      rw [hruled'.settings name hname, hsettings name hname, hruled.settings name hname]
    have hloaded := hcompletes.ofArguments_congr hcompletes' hsame hargs
    rw [load_eq]
    exact bind_eq_ok.mpr ⟨found', hgather', bind_eq_ok.mpr
      ⟨args', hargs', inConfiguration_eq_ok.mpr hloaded⟩⟩

/-- A project file and a user's file, of which the latter sets a load that is out of range, and
variables, of which one sets a duration that is. -/
def workshop : Surroundings where
  files := ⟨[(["work", "skript-profiler.toml"],
      .file (encodeUtf8 "default_load = 19\n[thresholds]\nlong_wait_ticks = 40\n")),
    (["home", "ada", ".skript-profiler.toml"], .file (encodeUtf8 "default_load = -5\n"))]⟩
  cwd := ⟨.single, ["work"]⟩
  home := "/home/ada"
  environment := [("SKPROFILE_MAX_DURATION_SECONDS", "-60"),
    ("SKPROFILE_THRESHOLDS_LONG_WAIT_TICKS", "30")]

theorem load_precedence_workshop :
    let overrides := [("max_duration_seconds", .value (.int 5))]
    workshop.Tabular none ∧ ∃ s, load workshop none overrides = .ok s ∧
      (s.fields.lookup "default_load").bind (·.number?) = some (.int 19) ∧
      (s.fields.lookup "max_duration_seconds").bind (·.number?) = some (.int 5) ∧
      (∃ t, s.thresholds = .thresholds t ∧
        (t.fields.lookup "long_wait_ticks").bind (·.number?) = some (.int 30)) ∧
      load { workshop with home := "/home" } none overrides = .ok s := by
  intro overrides
  have htabular : workshop.Tabular none := by decide +kernel
  obtain ⟨s, hs⟩ :=
    isOk_iff.mp (show (load workshop none overrides).isOk = true by decide +kernel)
  obtain ⟨hsettings, ⟨t, ht, hthresholds⟩, hsame⟩ :=
    load_precedence htabular (fun x hx => by cases hx) hs
  have huser : workshop.userFile = .ok ⟨.single, ["home", "ada", ".skript-profiler.toml"]⟩ :=
    toOption_eq_some.mp (by decide +kernel)
  have hother : ({ workshop with home := "/home" } : Surroundings).userFile =
      .ok ⟨.single, ["home", ".skript-profiler.toml"]⟩ :=
    toOption_eq_some.mp (by decide +kernel)
  -- What the user's file says, the project's says too.
  have hentry : ∀ name,
      ({ workshop with home := "/home" } : Surroundings).fileRuling? none name =
        workshop.fileRuling? none name := by
    intro name
    rw [fileRuling?_of_covered huser (by decide +kernel),
      fileRuling?_of_covered hother (by decide +kernel)]
    rfl
  refine ⟨htabular, s, hs, ?_, ?_, ⟨t, ht, ?_⟩, ?_⟩
  · rw [hsettings _ (by decide)]
    decide +kernel
  · rw [hsettings _ (by decide)]
    decide +kernel
  · rw [hthresholds]
    decide +kernel
  · refine hsame _ none ?_ (by decide +kernel) (fun name _ => ?_) (fun name => ?_)
    · exact ⟨⟨_, hother, by decide +kernel⟩, by decide +kernel, nofun, by decide +kernel,
        by decide +kernel⟩
    · rw [Surroundings.ruling?, Surroundings.ruling?, hentry]
      rfl
    · rw [Surroundings.thresholdRuling?, Surroundings.thresholdRuling?, hentry]
      rfl

end Settings
end ScriptProfiling
