import ScriptProfiling.Config.Settings
import ScriptProfiling.Proofs.Catalog
import ScriptProfiling.Proofs.Partial

/-!
# Settings made of arguments

Thresholds and settings are put together exactly when every argument has a known name, each
field is what its argument or its default says, and the fields pass their checks.
-/
namespace ScriptProfiling

theorem Value.number?_eq_some {v : Value} {x : Number} : v.number? = some x ↔ v = x.toValue := by
  constructor
  · intro h
    cases v with
    | int n => rw [← Option.some.inj h]; rfl
    | float y => rw [← Option.some.inj h]; rfl
    | bool b => rw [← Option.some.inj h]; rfl
    | _ => cases h
  · rintro rfl
    exact x.number?_toValue

section Named

variable {β γ : Type} {names : List String} {args defaults : List (String × β)}

theorem mem_map_fst_iff {name : String} :
    name ∈ args.map Prod.fst ↔ (args.lookup name).isSome = true := by
  rw [← not_iff_not, Bool.not_eq_true, Option.isSome_eq_false_iff, Option.isNone_iff_eq_none,
    List.lookup_eq_none_iff]
  simp only [List.mem_map, not_exists, not_and, bne_iff_ne]
  exact forall₂_congr fun _ _ => not_congr eq_comm

/-- Where every name has a default, fields that are made of arguments and defaults are looked up
in these. -/
theorem lookup_assembled (hnames : defaults.map Prod.fst = names)
    (hknown : ∀ a ∈ args, a.1 ∈ names) (k : String → β → γ) {choice : String → β} {d : β}
    (hchoice : ∀ name, choice name = ((args.lookup name).or (defaults.lookup name)).getD d)
    (name : String) :
    (names.map fun name => (name, k name (choice name))).lookup name =
      ((args.lookup name).or (defaults.lookup name)).map (k name) := by
  rw [← Catalog.lookup_eq, Catalog.lookup_map fun name => k name (choice name)]
  by_cases hname : name ∈ names
  · have hdefault : (defaults.lookup name).isSome = true := by
      rw [← mem_map_fst_iff, hnames]
      exact hname
    have hsome : ((args.lookup name).or (defaults.lookup name)).isSome = true := by
      rw [Option.isSome_or, hdefault, Bool.or_true]
    obtain ⟨v, hv⟩ := Option.isSome_iff_exists.mp hsome
    rw [if_pos hname, hchoice, hv]
    rfl
  · have hargs : args.lookup name = none := by
      by_contra hsome
      obtain ⟨a, ha, rfl⟩ :=
        List.mem_map.mp (mem_map_fst_iff.mpr (Option.isSome_iff_ne_none.mpr hsome))
      exact hname (hknown a ha)
    have hdefaults : defaults.lookup name = none := by
      by_contra hsome
      exact hname (hnames ▸ mem_map_fst_iff.mpr (Option.isSome_iff_ne_none.mpr hsome))
    rw [if_neg hname, hargs, hdefaults]
    rfl

theorem find?_unknown_eq_none :
    (args.find? fun a => !names.contains a.1) = none ↔ ∀ a ∈ args, a.1 ∈ names := by
  simp

theorem known_congr {args' : List (String × β)}
    (hlookup : ∀ name, args'.lookup name = args.lookup name)
    (hknown : ∀ a ∈ args, a.1 ∈ names) : ∀ a ∈ args', a.1 ∈ names := by
  intro a ha
  have hname : a.1 ∈ args.map Prod.fst := by
    rw [mem_map_fst_iff, ← hlookup, ← mem_map_fst_iff]
    exact List.mem_map_of_mem ha
  obtain ⟨b, hb, heq⟩ := List.mem_map.mp hname
  rw [← heq]
  exact hknown b hb

end Named

namespace Thresholds

/-- The rules that thresholds are checked by. -/
structure Valid (t : Thresholds) : Prop where
  slow : t.slowMs.le (.int 0) = false
  verySlow : t.verySlowMs.lt t.slowMs = false
  frequencyCount : t.frequencyCount.lt (.int 0) = false
  frequencyTotal : t.frequencyTotalMs.lt (.int 0) = false
  loopCount : t.loopCount.lt (.int 0) = false
  waitTicks : t.waitTicks.lt (.int 0) = false
  variableCount : t.variableCount.lt (.int 0) = false
  lowLoad : t.lowLoad.lt (.int 0) = false
  maxIssues : t.maxIssues.lt (.int 1) = false
  topSlowest : t.topSlowest.lt (.int 1) = false

section Checks

variable {args : Arguments} {name : String} {x : Number}

theorem comparable_eq_ok {relation against : String} {v : Value} :
    comparable relation v against = .ok x ↔ v = x.toValue := by
  rw [← Value.number?_eq_some, comparable]
  cases v.number? <;> simp

theorem require_eq_ok {holds : Bool} {rule : String} {u : Unit} :
    require holds rule = .ok u ↔ holds = true := by
  cases holds <;> simp [require]

theorem checked_eq_ok {read : Except Fault Number} {P : Number → Prop} {breaks : Number → Bool}
    {rule : String} (hread : ∀ y, read = .ok y ↔ P y) :
    (do
      let y ← read
      require (!breaks y) rule
      return y) = .ok x ↔ P x ∧ breaks x = false := by
  simp only [bind_eq_ok, hread, require_eq_ok, pure_eq_ok, Bool.not_eq_true']
  constructor
  · rintro ⟨y, hy, -, hlimit, rfl⟩
    exact ⟨hy, hlimit⟩
  · rintro ⟨hx, hlimit⟩
    exact ⟨x, hx, (), hlimit, rfl⟩

theorem notNegative_eq_ok :
    notNegative args name = .ok x ↔ argument args name = x.toValue ∧ x.lt (.int 0) = false :=
  checked_eq_ok fun _ => comparable_eq_ok

theorem atLeastOne_eq_ok :
    atLeastOne args name = .ok x ↔ argument args name = x.toValue ∧ x.lt (.int 1) = false :=
  checked_eq_ok fun _ => comparable_eq_ok

end Checks

/-- Thresholds are made of arguments with known names, each field of its own argument or else
of its default, if the fields pass their checks. -/
theorem ofArguments_eq_ok {args : Arguments} {t : Thresholds} :
    ofArguments args = .ok t ↔ (∀ a ∈ args, a.1 ∈ fieldNames) ∧
      t.fields = fieldNames.map (fun name => (name, argument args name)) ∧ t.Valid := by
  unfold ofArguments
  cases hunknown : args.find? fun a => !fieldNames.contains a.1 with
  | some a =>
    refine iff_of_false nofun fun h => ?_
    cases hunknown.symm.trans (find?_unknown_eq_none.mpr h.1)
  | none =>
    have hknown := find?_unknown_eq_none.mp hunknown
    dsimp only
    simp only [bind_eq_ok, comparable_eq_ok, require_eq_ok, notNegative_eq_ok, atLeastOne_eq_ok,
      pure_eq_ok, Bool.not_eq_true']
    constructor
    · rintro ⟨slow, hslow, -, hpositive, verySlow, hverySlow, -, hordered, frequency,
        ⟨hfrequency, hfrequency'⟩, total, ⟨htotal, htotal'⟩, loops, ⟨hloops, hloops'⟩, waits,
        ⟨hwaits, hwaits'⟩, accesses, ⟨haccesses, haccesses'⟩, load, ⟨hload, hload'⟩, issues,
        ⟨hissues, hissues'⟩, slowest, ⟨hslowest, hslowest'⟩, rfl⟩
      refine ⟨hknown, ?_, ⟨hpositive, hordered, hfrequency', htotal', hloops', hwaits', haccesses',
        hload', hissues', hslowest'⟩⟩
      simp only [fieldNames, fields, default, List.map_cons, List.map_nil, hslow, hverySlow,
        hfrequency, htotal, hloops, hwaits, haccesses, hload, hissues, hslowest]
    · rintro ⟨-, hfields, hvalid⟩
      simp only [fieldNames, fields, default, List.map_cons, List.map_nil, List.cons.injEq,
        Prod.mk.injEq, true_and, and_true] at hfields
      obtain ⟨hslow, hverySlow, hfrequency, htotal, hloops, hwaits, haccesses, hload, hissues,
        hslowest, hsuggestions⟩ := hfields
      refine ⟨_, hslow.symm, (), hvalid.slow, _, hverySlow.symm, (), hvalid.verySlow,
        _, ⟨hfrequency.symm, hvalid.frequencyCount⟩, _, ⟨htotal.symm, hvalid.frequencyTotal⟩,
        _, ⟨hloops.symm, hvalid.loopCount⟩, _, ⟨hwaits.symm, hvalid.waitTicks⟩,
        _, ⟨haccesses.symm, hvalid.variableCount⟩, _, ⟨hload.symm, hvalid.lowLoad⟩,
        _, ⟨hissues.symm, hvalid.maxIssues⟩, _, ⟨hslowest.symm, hvalid.topSlowest⟩, ?_⟩
      rw [← hsuggestions]

section Results

variable {args args' : Arguments} {t : Thresholds}

theorem argument_eq (args : Arguments) (name : String) :
    argument args name = ((args.lookup name).or (default.fields.lookup name)).getD .null := by
  unfold argument
  cases args.lookup name <;> rfl

theorem lookup_fields_or (t : Thresholds) (name : String) :
    (t.fields.lookup name).or (default.fields.lookup name) = t.fields.lookup name := by
  have hnames : default.fields.map Prod.fst = t.fields.map Prod.fst := rfl
  cases hlookup : t.fields.lookup name with
  | some v => rfl
  | none =>
    rw [Option.none_or]
    by_contra hsome
    have hname := mem_map_fst_iff.mpr (Option.isSome_iff_ne_none.mpr hsome)
    rw [hnames, mem_map_fst_iff, hlookup] at hname
    cases hname

theorem lookup_fields (h : ofArguments args = .ok t) (name : String) :
    t.fields.lookup name = (args.lookup name).or (default.fields.lookup name) := by
  obtain ⟨hknown, hfields, -⟩ := ofArguments_eq_ok.mp h
  rw [hfields]
  exact (lookup_assembled rfl hknown (fun _ v => v) (argument_eq args) name).trans
    Option.map_id_apply

theorem ofArguments_congr (hlookup : ∀ name, args'.lookup name = args.lookup name)
    (h : ofArguments args = .ok t) : ofArguments args' = .ok t := by
  have hargument : argument args' = argument args := by
    funext name
    rw [argument_eq, argument_eq, hlookup]
  obtain ⟨hknown, hfields, hvalid⟩ := ofArguments_eq_ok.mp h
  exact ofArguments_eq_ok.mpr ⟨known_congr hlookup hknown, by rw [hargument, hfields], hvalid⟩

end Results

end Thresholds

namespace Setting

theorem toValue_eq_iff {x : Setting} {v : Value} (hv : ∀ fields, v ≠ .table fields) :
    x.toValue = v ↔ x = .value v := by
  cases x with
  | value w => simp [toValue]
  | thresholds t => exact iff_of_false (Ne.symm (hv t.fields)) nofun

theorem toValue_eq_number {x : Setting} {n : Number} :
    x.toValue = n.toValue ↔ x = .value n.toValue :=
  toValue_eq_iff fun _ => by cases n <;> exact nofun

theorem toValue_eq_text {x : Setting} {text : String} :
    x.toValue = .text text ↔ x = .value (.text text) :=
  toValue_eq_iff fun _ => nofun

theorem number?_eq_some {x : Setting} {n : Number} :
    x.number? = some n ↔ x = .value n.toValue := by
  cases x with
  | value v => simp [number?, Value.number?_eq_some]
  | thresholds t => exact iff_of_false nofun nofun

end Setting

namespace Settings

/-- The rules that settings are checked by; that reports go to a known place is part of their
type. -/
structure Valid (s : Settings) : Prop where
  scriptExtension : s.scriptExtension.toList.head? = some '.'
  sampleInterval : s.sampleInterval.le (.int 0) = false
  defaultLoad : s.defaultLoad.lt (.int 0) = false
  maxDuration : s.maxDuration.lt (.int 0) = false

section Checks

variable {args : Arguments} {name : String} {n : Number} {x : Setting}

theorem extensionOf_eq_ok {text : String} :
    extensionOf x = .ok text ↔ x = .value (.text text) ∧ text.toList.head? = some '.' := by
  unfold extensionOf
  split
  · next other =>
    by_cases hdot : other.toList.head? = some '.'
    · rw [if_pos hdot]
      constructor
      · intro h
        obtain rfl := Except.ok.inj h
        exact ⟨rfl, hdot⟩
      · rintro ⟨h, -⟩
        obtain rfl := Value.text.inj (Setting.value.inj h)
        rfl
    · rw [if_neg hdot]
      refine iff_of_false nofun ?_
      rintro ⟨h, hdot'⟩
      obtain rfl := Value.text.inj (Setting.value.inj h)
      exact hdot hdot'
  · exact iff_of_false nofun nofun
  · next hnoText _ =>
    exact iff_of_false nofun fun h => hnoText text h.1

theorem ofName?_eq_some {text : String} {f : ReportFormat} :
    ReportFormat.ofName? text = some f ↔ text = f.name := by
  unfold ReportFormat.ofName?
  constructor
  · intro h
    have hname := List.find?_some h
    exact (beq_iff_eq.mp hname).symm
  · rintro rfl
    cases f <;> decide

theorem formatOf_eq_ok {f : ReportFormat} : formatOf x = .ok f ↔ x = .value (.text f.name) := by
  cases x with
  | thresholds t => exact iff_of_false nofun nofun
  | value v =>
    cases v with
    | text text =>
      rw [Setting.value.injEq, Value.text.injEq, ← ofName?_eq_some]
      unfold formatOf
      dsimp only
      cases ReportFormat.ofName? text <;> simp
    | _ => exact iff_of_false nofun nofun

theorem comparable_eq_ok {relation : String} :
    comparable relation args name = .ok n ↔ argument args name = .value n.toValue := by
  rw [← Setting.number?_eq_some, comparable]
  cases (argument args name).number? <;> simp

theorem notNegative_eq_ok : notNegative args name = .ok n ↔
    argument args name = .value n.toValue ∧ n.lt (.int 0) = false :=
  Thresholds.checked_eq_ok fun _ => comparable_eq_ok

theorem positive_eq_ok : positive args name = .ok n ↔
    argument args name = .value n.toValue ∧ n.le (.int 0) = false :=
  Thresholds.checked_eq_ok fun _ => comparable_eq_ok

end Checks

/-- A setting as settings keep it: only under the name of the thresholds may it be thresholds
and not a value. -/
def kept (name : String) (x : Setting) : Setting :=
  if name = "thresholds" then x else .value x.toValue

theorem ofArguments_eq_ok {args : Arguments} {s : Settings} :
    ofArguments args = .ok s ↔ (∀ a ∈ args, a.1 ∈ fieldNames) ∧
      s.fields = fieldNames.map (fun name => (name, kept name (argument args name))) ∧
      s.Valid := by
  unfold ofArguments
  cases hunknown : args.find? fun a => !fieldNames.contains a.1 with
  | some a =>
    refine iff_of_false nofun fun h => ?_
    cases hunknown.symm.trans (find?_unknown_eq_none.mpr h.1)
  | none =>
    have hknown := find?_unknown_eq_none.mp hunknown
    dsimp only
    simp only [bind_eq_ok, extensionOf_eq_ok, positive_eq_ok, notNegative_eq_ok, formatOf_eq_ok,
      pure_eq_ok]
    constructor
    · rintro ⟨ext, ⟨hext, hext'⟩, interval, ⟨hinterval, hinterval'⟩, load, ⟨hload, hload'⟩,
        duration, ⟨hduration, hduration'⟩, format, hformat, rfl⟩
      refine ⟨hknown, ?_, ⟨hext', hinterval', hload', hduration'⟩⟩
      simp [fieldNames, fields, default, kept, hext, hinterval, hload, hduration, hformat,
        Setting.toValue]
    · rintro ⟨-, hfields, hvalid⟩
      simp only [fieldNames, fields, default, kept, List.map_cons, List.map_nil, List.cons.injEq,
        Prod.mk.injEq, true_and, and_true, reduceIte, Setting.value.injEq, String.reduceEq]
        at hfields
      obtain ⟨hdir, hext, haware, hinterval, hload, hduration, hformat, hthresholds⟩ := hfields
      refine ⟨_, ⟨Setting.toValue_eq_text.mp hext.symm, hvalid.scriptExtension⟩,
        _, ⟨Setting.toValue_eq_number.mp hinterval.symm, hvalid.sampleInterval⟩,
        _, ⟨Setting.toValue_eq_number.mp hload.symm, hvalid.defaultLoad⟩,
        _, ⟨Setting.toValue_eq_number.mp hduration.symm, hvalid.maxDuration⟩,
        _, Setting.toValue_eq_text.mp hformat.symm, ?_⟩
      rw [← hdir, ← haware, ← hthresholds]

section Results

variable {args args' : Arguments} {s : Settings}

theorem argument_eq (args : Arguments) (name : String) :
    argument args name =
      ((args.lookup name).or (default.fields.lookup name)).getD (.value .null) := by
  unfold argument
  cases args.lookup name <;> rfl

theorem lookup_fields (h : ofArguments args = .ok s) (name : String) :
    s.fields.lookup name =
      ((args.lookup name).or (default.fields.lookup name)).map (kept name) := by
  obtain ⟨hknown, hfields, -⟩ := ofArguments_eq_ok.mp h
  rw [hfields]
  exact lookup_assembled rfl hknown kept (argument_eq args) name

theorem thresholds_ofArguments (h : ofArguments args = .ok s) :
    s.thresholds = argument args "thresholds" := by
  obtain ⟨-, hfields, -⟩ := ofArguments_eq_ok.mp h
  have hlookup := congrArg (List.lookup "thresholds") hfields
  simpa [fields, fieldNames, default, kept, List.lookup_cons] using hlookup

theorem ofArguments_congr (hknown : ∀ a ∈ args', a.1 ∈ fieldNames)
    (hargument : ∀ name, argument args' name = argument args name)
    (h : ofArguments args = .ok s) : ofArguments args' = .ok s := by
  obtain ⟨-, hfields, hvalid⟩ := ofArguments_eq_ok.mp h
  refine ofArguments_eq_ok.mpr ⟨hknown, ?_, hvalid⟩
  rw [hfields, funext hargument]

end Results

end Settings
end ScriptProfiling
