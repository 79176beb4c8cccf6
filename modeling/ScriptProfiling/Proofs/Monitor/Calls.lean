import ScriptProfiling.Proofs.Monitor
import ScriptProfiling.Proofs.Number.Range
import ScriptProfiling.Proofs.Partial
import Mathlib.Data.List.Induction

/-!
# Loads of every kind

Hosts push what they like, and a sampler may answer with anything or raise. Whatever comes,
the load that stands is the last one that was finite and not negative, or the default. What
is no load is passed over without a fault, but for a whole number that is too large for
floating point: its conversion fails in a way that is not caught.
-/
namespace ScriptProfiling

theorem isOk_wholeToFloat (n : Int) : (wholeToFloat n).isOk = true ↔ n.natAbs < floatRange := by
  have hfinite := isFinite_nearest_iff (decide (n < 0)) (n := n.natAbs) (d := 1) one_pos
  rw [Nat.one_mul] at hfinite
  rw [← hfinite, wholeToFloat, Binary64.ofIntNearest]
  split
  · next h => exact iff_of_true rfl h
  · next h => exact iff_of_false Bool.false_ne_true h

namespace Value

/-- A whole number that no floating-point number is near. -/
def Oversized (v : Value) : Prop := ∃ n, v = .int n ∧ floatRange ≤ n.natAbs

theorem oversized_int (n : Int) : (int n).Oversized ↔ floatRange ≤ n.natAbs := by
  constructor
  · rintro ⟨k, hk, hlarge⟩
    obtain rfl := int.inj hk
    exact hlarge
  · exact fun hlarge => ⟨n, rfl, hlarge⟩

theorem isRefusal_toFloat {v : Value} (h : ¬ v.Oversized) :
    FailsWith (·.isRefusal = true) v.toFloat := by
  cases v with
  | int n =>
    rw [oversized_int, Nat.not_le, ← isOk_wholeToFloat] at h
    obtain ⟨x, hx⟩ := isOk_iff.mp h
    rw [toFloat, hx]
    exact failsWith_ok x
  | bool b =>
    have hsmall : (Number.flagValue b).natAbs ≤ 1 := by cases b <;> decide
    have hok : (wholeToFloat (Number.flagValue b)).isOk = true :=
      (isOk_wholeToFloat _).mpr (hsmall.trans_lt (by decide +kernel))
    obtain ⟨x, hx⟩ := isOk_iff.mp hok
    rw [toFloat, hx]
    exact failsWith_ok x
  | float x => exact failsWith_ok x
  | text s =>
    rw [toFloat, parseFloat]
    split
    · exact failsWith_ok _
    · exact failsWith_error rfl
  | bytes bs =>
    rw [toFloat]
    split
    · exact failsWith_ok _
    · exact failsWith_error rfl
  | _ => exact failsWith_error rfl

theorem toFloat_of_oversized {v : Value} (h : v.Oversized) :
    v.toFloat = .error .wholeTooLarge := by
  obtain ⟨n, rfl, hlarge⟩ := h
  have hfails : ¬ (wholeToFloat n).isOk = true := by
    rw [isOk_wholeToFloat]
    exact Nat.not_lt.mpr hlarge
  have hinfinite : ¬ (Binary64.ofIntNearest n).isFinite = true := by
    intro hfinite
    rw [wholeToFloat, if_pos hfinite] at hfails
    exact hfails rfl
  exact if_neg hinfinite

end Value

namespace Monitor

/-- What a host does with a monitor: it pushes a value, or has the sampler asked once. -/
inductive Call where
  | update (v : Value)
  | sample

def call (m : Monitor) : Call → Outcome Monitor Value
  | .update v => m.update v
  | .sample => m.sample

def after (m : Monitor) (calls : List Call) : Monitor :=
  calls.foldl (fun m c => (m.call c).state) m

namespace Call

/-- What comes in with a call. Without a sampler there is nobody to ask. -/
def brings (sampler : Option (List Sample)) : Call → List Sample
  | .update v => [.value v]
  | .sample => (sampler.map fun samples => (nextSample samples).1).toList

/-- The sampler after a call: each question uses up one answer. -/
def leaves (sampler : Option (List Sample)) : Call → Option (List Sample)
  | .update _ => sampler
  | .sample => sampler.map fun samples => (nextSample samples).2

end Call

/-- Everything that comes in with some calls, in order. -/
def incoming (sampler : Option (List Sample)) : List Call → List Sample
  | [] => []
  | c :: calls => c.brings sampler ++ incoming (c.leaves sampler) calls

def samplerAfter (sampler : Option (List Sample)) (calls : List Call) : Option (List Sample) :=
  calls.foldl Call.leaves sampler

theorem incoming_append_singleton (sampler : Option (List Sample)) (calls : List Call) (c : Call) :
    incoming sampler (calls ++ [c]) =
      incoming sampler calls ++ c.brings (samplerAfter sampler calls) := by
  induction calls generalizing sampler with
  | nil => simp [incoming, samplerAfter]
  | cons first calls ih => simp [incoming, samplerAfter, ih]

/-- Whether a call fails that brings this: the value is too large to be converted, or it is a
load and the threshold is nothing that a load can be compared with. -/
def Spoils (threshold : Value) (s : Sample) : Prop :=
  ∃ v, s = .value v ∧ (v.Oversized ∨ (threshold.number? = none ∧ s.load?.isSome = true))

section Call

variable (m : Monitor)

theorem sampler_call (c : Call) : (m.call c).state.sampler = c.leaves m.sampler := by
  cases c with
  | update v => exact m.sampler_update v
  | sample =>
    rw [call, Monitor.sample]
    cases hsampler : m.sampler with
    | none => exact hsampler
    | some samples =>
      dsimp only
      cases (nextSample samples).1 with
      | value v => exact sampler_update _ v
      | raises message => rfl

theorem threshold_call (c : Call) : (m.call c).state.threshold = m.threshold := by
  cases c with
  | update v => exact m.threshold_update v
  | sample =>
    rw [call, Monitor.sample]
    cases m.sampler with
    | none => rfl
    | some samples =>
      dsimp only
      cases (nextSample samples).1 with
      | value v => exact threshold_update _ v
      | raises message => rfl

theorem current_call (c : Call) :
    (m.call c).state.current = standing m.current (c.brings m.sampler) := by
  cases c with
  | update v => exact m.current_update v
  | sample => exact m.current_sample

/-- A value that does not spoil its call is taken or passed over, and answered with the load that
stands. -/
theorem result_update (v : Value) :
    (¬ Spoils m.threshold (.value v) ∧ (m.update v).result = .ok (m.update v).state.current) ∨
      (Spoils m.threshold (.value v) ∧ ∃ f, (m.update v).result = .error f) := by
  by_cases hsize : v.Oversized
  · refine Or.inr ⟨⟨v, rfl, Or.inl hsize⟩, .wholeTooLarge, ?_⟩
    rw [update, v.toFloat_of_oversized hsize]
    rfl
  · have hspoils : Spoils m.threshold (.value v) ↔
        m.threshold.number? = none ∧ (Sample.value v).load?.isSome = true := by
      constructor
      · rintro ⟨w, hw, hsized | htaken⟩
        · obtain rfl := Sample.value.inj hw
          exact absurd hsized hsize
        · exact htaken
      · exact fun htaken => ⟨v, rfl, Or.inr htaken⟩
    rw [hspoils, Sample.load?]
    unfold update
    cases hload : v.toFloat with
    | error f =>
      have hrefusal : f.isRefusal = true := Value.isRefusal_toFloat hsize f hload
      refine Or.inl ⟨fun h => Bool.false_ne_true h.2, ?_⟩
      dsimp only
      rw [if_pos hrefusal]
    | ok load =>
      dsimp only [Except.toOption]
      cases husable : isUsableFloat load with
      | false => simp [Option.filter, husable]
      | true =>
        rw [if_pos rfl, accept]
        cases m.threshold.number? with
        | none => simp [Option.filter, husable]
        | some limit => simp

theorem result_call (c : Call) :
    let spoilt := ∃ s ∈ c.brings m.sampler, Spoils m.threshold s
    (¬ spoilt ∧ (m.call c).result = .ok (m.call c).state.current) ∨
      (spoilt ∧ ∃ f, (m.call c).result = .error f) := by
  cases c with
  | update v =>
    simp only [Call.brings, List.mem_singleton, exists_eq_left]
    exact m.result_update v
  | sample =>
    rw [call, Monitor.sample]
    cases hsampler : m.sampler with
    | none => exact Or.inl ⟨by simp [Call.brings], rfl⟩
    | some samples =>
      simp only [Call.brings, Option.map_some, Option.toList_some, List.mem_singleton,
        exists_eq_left]
      cases (nextSample samples).1 with
      | value v => exact result_update { m with sampler := some (nextSample samples).2 } v
      | raises message =>
        have hclean : ¬ Spoils m.threshold (.raises message) := by
          rintro ⟨v, hv, -⟩
          cases hv
        exact Or.inl ⟨hclean, rfl⟩

end Call

/-- What some calls leave is told by the sampler, the threshold and the incoming loads. -/
theorem after_spec (m : Monitor) (calls : List Call) :
    (m.after calls).sampler = samplerAfter m.sampler calls ∧
      (m.after calls).threshold = m.threshold ∧
      (m.after calls).current = standing m.current (incoming m.sampler calls) := by
  induction calls using List.reverseRecOn with
  | nil => exact ⟨rfl, rfl, rfl⟩
  | append_singleton calls c ih =>
    obtain ⟨hsampler, hthreshold, hcurrent⟩ := ih
    have hlast : m.after (calls ++ [c]) = ((m.after calls).call c).state := by
      rw [after, List.foldl_append]
      rfl
    rw [hlast, sampler_call, threshold_call, current_call, incoming_append_singleton,
      standing_append, ← hcurrent, hsampler, hthreshold]
    refine ⟨?_, rfl, rfl⟩
    rw [samplerAfter, samplerAfter, List.foldl_append]
    rfl

/-- After any calls the load that stands is the last usable one that came in, or the default,
also when the last call has failed. A call answers with that load, unless a whole number came in
that is too large for floating point, or a load came in and the threshold is no number. -/
theorem last_usable_stands (sampler : Option (List Sample)) (interval threshold default : Value)
    (calls : List Call) (c : Call) :
    let done := ((create sampler interval threshold default).after calls).call c
    let spoilt := ∃ s ∈ c.brings (samplerAfter sampler calls), Spoils threshold s
    done.state.current = standing default (incoming sampler (calls ++ [c])) ∧
    ((¬ spoilt ∧ done.result = .ok done.state.current) ∨
      (spoilt ∧ ∃ f, done.result = .error f)) := by
  intro done spoilt
  obtain ⟨hsampler, hthreshold, hcurrent⟩ :=
    after_spec (create sampler interval threshold default) calls
  have hresult := result_call ((create sampler interval threshold default).after calls) c
  rw [hsampler, hthreshold] at hresult
  refine ⟨?_, hresult⟩
  rw [current_call, hsampler, hcurrent, incoming_append_singleton, standing_append]
  rfl

/-- A sampler that raises, answers in letters, gives a number that is too large, and then a load. -/
def poorSampler : List Sample :=
  [.raises "server unreachable", .value (.text "fast"), .value (.int (2 ^ 1024)),
    .value (.text " 17.5 ")]

/-- The number that is too large makes its call fail, and the load from before it stands. The
next sample is taken again. -/
theorem last_usable_stands_poorSampler :
    let m := create (some poorSampler) (.int 1) (.int 18) (.int 20)
    let calls := [.update (.bytes [49, 57]), .sample, .update (.float .nan), .sample, .update .null]
    (∃ f, ((m.after calls).call .sample).result = .error f) ∧
    ((m.after calls).call .sample).state.current = .float (.nearest false 19 1) ∧
    ((m.after (calls ++ [.sample])).call .sample).result = .ok (.float (.nearest false 35 2)) := by
  intro m calls
  obtain ⟨hcurrent, hfailed⟩ :=
    last_usable_stands (some poorSampler) (.int 1) (.int 18) (.int 20) calls .sample
  obtain ⟨hnext, hanswered⟩ :=
    last_usable_stands (some poorSampler) (.int 1) (.int 18) (.int 20) (calls ++ [.sample]) .sample
  have hloads : (incoming (some poorSampler) (calls ++ [.sample])).filterMap Sample.load? =
      [.nearest false 19 1] := by
    decide +kernel
  have hlater : (incoming (some poorSampler) (calls ++ [.sample] ++ [.sample])).filterMap
      Sample.load? = [.nearest false 19 1, .nearest false 35 2] := by
    decide +kernel
  have hspoilt : Spoils (.int 18) (.value (.int (2 ^ 1024))) :=
    ⟨_, rfl, Or.inl ((Value.oversized_int _).mpr (by decide +kernel))⟩
  have hclean : ¬ Spoils (.int 18) (.value (.text " 17.5 ")) := by
    rintro ⟨v, hv, ⟨n, hn, -⟩ | ⟨hthreshold, -⟩⟩
    · cases hv
      cases hn
    · cases hthreshold
  refine ⟨?_, ?_, ?_⟩
  · rcases hfailed with ⟨hnone, -⟩ | ⟨-, hfails⟩
    · exact absurd ⟨_, List.mem_singleton_self _, hspoilt⟩ hnone
    · exact hfails
  · rw [hcurrent, standing, hloads]
    rfl
  · rcases hanswered with ⟨-, hok⟩ | ⟨⟨s, hs, hbad⟩, -⟩
    · rw [hok, hnext, standing, hlater]
      rfl
    · obtain rfl := List.mem_singleton.mp hs
      exact absurd hbad hclean

end Monitor
end ScriptProfiling
