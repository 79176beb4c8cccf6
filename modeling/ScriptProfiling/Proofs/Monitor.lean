import ScriptProfiling.Monitor
import ScriptProfiling.Proofs.Partial

/-!
# The monitor at work

Taking a load changes nothing but the load that stands. Sampling in the background ends with a
fault, and there are two of them: a number that is too large for a load, and an interval that
is too long to wait for. A sampler that raises or that answers with no number at all does not
end it.

Whoever ends the sampling waits for the thread, up to a second longer than the interval, and
fails if that is too long. The sampling has ended all the same.
-/
namespace ScriptProfiling

/-- Whether an answer of the sampler is taken or ignored, so that sampling goes on. -/
def Sample.tame : Sample → Bool
  | .value v =>
    match v.toFloat with
    | .ok _ => true
    | .error f => f.isRefusal
  | .raises _ => true

/-- Whether a sampler, if there is one, always answers so. -/
def tameSampler (sampler : Option (List Sample)) : Bool := sampler.all (·.all Sample.tame)

theorem tame_nextSample {samples : List Sample} (h : tameSampler (some samples) = true) :
    (Monitor.nextSample samples).1.tame = true ∧
      tameSampler (some (Monitor.nextSample samples).2) = true := by
  cases samples with
  | nil => exact ⟨rfl, rfl⟩
  | cons x rest => simpa [tameSampler, Monitor.nextSample] using h

/-- The load that an answer gives, if it is finite and not negative. -/
def Sample.load? : Sample → Option Binary64
  | .value v => v.toFloat.toOption.filter isUsableFloat
  | .raises _ => none

namespace Monitor

/-- What the background does once in a while. -/
def poll (m : Monitor) : Monitor := if m.running then m.round.state else m

/-- Whoever ends the sampling can wait for its end. -/
def Joinable (interval : Value) : Prop := (patience interval >>= await).isOk = true

/-- A thread can wait between two samples, and for the thread whoever ends the sampling. -/
structure Lasting (interval : Value) : Prop where
  waits : canWait interval = true
  joins : Joinable interval

instance (interval : Value) : Decidable (Joinable interval) :=
  inferInstanceAs (Decidable (_ = true))

instance (interval : Value) : Decidable (Lasting interval) :=
  decidable_of_iff (canWait interval = true ∧ Joinable interval)
    ⟨fun ⟨hwaits, hjoins⟩ => ⟨hwaits, hjoins⟩, fun h => ⟨h.waits, h.joins⟩⟩

section Update

variable (m : Monitor) (v : Value)

theorem state_accept (load : Binary64) :
    (m.accept load).state = { m with current := .float load } := by
  unfold accept
  cases hlimit : m.threshold.number? <;> simp [hlimit]

theorem state_update : ∃ load, (m.update v).state = { m with current := load } := by
  unfold update
  split
  · split <;> exact ⟨m.current, rfl⟩
  · split
    · exact ⟨_, state_accept m _⟩
    · exact ⟨m.current, rfl⟩

@[simp] theorem sampler_update : (m.update v).state.sampler = m.sampler := by
  obtain ⟨load, h⟩ := state_update m v
  rw [h]

@[simp] theorem threshold_update : (m.update v).state.threshold = m.threshold := by
  obtain ⟨load, h⟩ := state_update m v
  rw [h]

@[simp] theorem interval_update : (m.update v).state.interval = m.interval := by
  obtain ⟨load, h⟩ := state_update m v
  rw [h]

@[simp] theorem sampling_update : (m.update v).state.sampling = m.sampling := by
  obtain ⟨load, h⟩ := state_update m v
  rw [h]

variable {m v}

theorem isOk_update (hthreshold : m.threshold.number?.isSome)
    (hv : (Sample.value v).tame = true) : (m.update v).result.isOk = true := by
  obtain ⟨limit, hlimit⟩ := Option.isSome_iff_exists.mp hthreshold
  unfold update
  cases hload : v.toFloat with
  | error f =>
    have hf : f.isRefusal = true := by simpa [Sample.tame, hload] using hv
    dsimp only
    rw [if_pos hf]
    rfl
  | ok load =>
    dsimp only
    split
    · simp [accept, hlimit, Except.isOk, Except.toBool]
    · rfl

end Update

/-- The load that stands after some samples: the last usable one, or the one before. -/
def standing (current : Value) (samples : List Sample) : Value :=
  (((samples.filterMap Sample.load?).getLast?).map Value.float).getD current

theorem standing_append (current : Value) (xs ys : List Sample) :
    standing current (xs ++ ys) = standing (standing current xs) ys := by
  unfold standing
  rw [List.filterMap_append, List.getLast?_append]
  cases (ys.filterMap Sample.load?).getLast? <;> rfl

section Standing

variable (m : Monitor)

/-- What the sampler says when it is asked once. -/
def answer : List Sample := (m.sampler.map fun samples => (nextSample samples).1).toList

theorem current_update (v : Value) :
    (m.update v).state.current = standing m.current [.value v] := by
  have hstanding : standing m.current [.value v] =
      ((Sample.value v).load?.map Value.float).getD m.current := by
    unfold standing
    cases h : (Sample.value v).load? <;> simp [h]
  rw [hstanding, Sample.load?]
  unfold update
  cases v.toFloat with
  | error f =>
    dsimp only
    split <;> rfl
  | ok load =>
    dsimp only [Except.toOption]
    split
    · next husable => simp [state_accept, Option.filter, husable]
    · next husable => simp [Option.filter, husable]

theorem current_sample : m.sample.state.current = standing m.current m.answer := by
  unfold sample answer
  cases m.sampler with
  | none => rfl
  | some samples =>
    dsimp only [Option.map, Option.toList]
    cases (nextSample samples).1 with
    | value v => exact current_update _ v
    | raises message => rfl

theorem current_poll :
    m.poll.current = standing m.current (if m.running then m.answer else []) := by
  unfold poll
  cases m.running with
  | true => exact m.current_sample
  | false => rfl

theorem current_noticed : m.noticed.current = m.current := by
  unfold noticed
  split <;> rfl

theorem current_start :
    m.start.value.2.current = standing m.current (if m.running then [] else m.answer) := by
  unfold start
  cases hsampler : m.sampler with
  | none => simp [answer, hsampler, standing, Logged.silent]
  | some samples =>
    cases hrunning : m.running with
    | true => rfl
    | false => exact m.current_sample

end Standing

/-- Two states of one monitor: neither is the interval another one, nor does the sampler come or
go. -/
structure Alike (m m' : Monitor) : Prop where
  interval : m'.interval = m.interval
  sampler : m'.sampler.isSome = m.sampler.isSome

section Frame

variable (m : Monitor)

theorem alike_update (v : Value) : m.Alike (m.update v).state := by
  constructor <;> simp

theorem alike_sample : m.Alike m.sample.state := by
  unfold sample
  cases hsampler : m.sampler with
  | none => exact ⟨rfl, rfl⟩
  | some samples =>
    dsimp only
    cases (nextSample samples).1 with
    | value v => constructor <;> simp [hsampler]
    | raises message => exact ⟨rfl, by rw [hsampler]; rfl⟩

theorem alike_start : m.Alike m.start.value.2 := by
  unfold start
  split
  · exact ⟨rfl, rfl⟩
  · exact ⟨m.alike_sample.interval, m.alike_sample.sampler⟩

theorem alike_poll : m.Alike m.poll := by
  unfold poll
  split
  · exact ⟨m.alike_sample.interval, m.alike_sample.sampler⟩
  · exact ⟨rfl, rfl⟩

theorem alike_noticed : m.Alike m.noticed := by
  unfold noticed
  split <;> exact ⟨rfl, rfl⟩

theorem sampling_sample : m.sample.state.sampling = m.sampling := by
  unfold sample
  cases m.sampler with
  | none => rfl
  | some samples =>
    dsimp only
    cases (nextSample samples).1 with
    | value v => exact sampling_update _ v
    | raises message => rfl

theorem sampling_round : m.round.state.sampling =
    if m.sample.result.isOk && canWait m.interval then .underWay else .ended false := rfl

theorem poll_of_idle {m : Monitor} (h : m.sampling = .idle) : m.poll = m := by
  unfold poll running
  rw [h]
  rfl

theorem start_of_isNone {m : Monitor} (h : m.sampler.isSome = false) :
    m.start = .silent (false, m) := by
  have hnone : m.sampler.isNone = true := by rw [← Option.not_isSome, h]; rfl
  unfold start
  rw [hnone]
  rfl

theorem noticed_of_ne {m : Monitor} (h : ∀ noticed, m.sampling ≠ .ended noticed) :
    m.noticed = m := by
  unfold noticed
  split
  · next seen hended => exact absurd hended (h seen)
  · rfl

theorem awaitEnd_of_joinable {m : Monitor} (h : Joinable m.interval) : m.awaitEnd = .ok () := by
  obtain ⟨_, hjoins⟩ := isOk_iff.mp h
  obtain ⟨seconds, hseconds, -⟩ := bind_eq_ok.mp hjoins
  unfold awaitEnd
  split
  · rfl
  · exact hjoins
  · exact hjoins
  · rw [hseconds]
    rfl

end Frame

/-- A monitor whose samples end no sampling. -/
structure Ready (sampled : Bool) (m : Monitor) : Prop where
  sampler : m.sampler.isSome = sampled
  samples : tameSampler m.sampler = true
  threshold : m.threshold.number?.isSome

namespace Ready

variable {sampled : Bool} {m : Monitor}

theorem sample (h : Ready sampled m) :
    Ready sampled m.sample.state ∧ m.sample.result.isOk = true := by
  unfold Monitor.sample
  cases hsampler : m.sampler with
  | none => exact ⟨h, rfl⟩
  | some samples =>
    have hsampled : sampled = true := by rw [← h.sampler, hsampler]; rfl
    obtain ⟨hnext, hrest⟩ := tame_nextSample (hsampler ▸ h.samples)
    have hleft : Ready sampled { m with sampler := some (nextSample samples).2 } :=
      ⟨hsampled.symm, hrest, h.threshold⟩
    dsimp only
    cases hx : (nextSample samples).1 with
    | value v =>
      rw [hx] at hnext
      exact ⟨⟨by simpa using hleft.sampler, by simpa using hleft.samples,
        by simpa using hleft.threshold⟩, isOk_update hleft.threshold hnext⟩
    | raises message => exact ⟨hleft, rfl⟩

theorem update (h : Ready sampled m) (v : Value) : Ready sampled (m.update v).state :=
  ⟨by simpa using h.sampler, by simpa using h.samples, by simpa using h.threshold⟩

theorem withSampling (h : Ready sampled m) (sampling : Sampling) :
    Ready sampled { m with sampling := sampling } :=
  ⟨h.sampler, h.samples, h.threshold⟩

theorem round (h : Ready sampled m) : Ready sampled m.round.state ∧
    m.round.state.sampling = if canWait m.interval then .underWay else .ended false := by
  obtain ⟨hready, hok⟩ := h.sample
  refine ⟨hready.withSampling _, ?_⟩
  rw [sampling_round, hok, Bool.true_and]

theorem poll (h : Ready sampled m) : Ready sampled m.poll := by
  unfold Monitor.poll
  split
  · exact h.round.1
  · exact h

theorem noticed (h : Ready sampled m) : Ready sampled m.noticed := by
  unfold Monitor.noticed
  split
  · exact h.withSampling _
  · exact h

theorem start (h : Ready sampled m) (hidle : m.sampling = .idle) :
    Ready sampled m.start.value.2 ∧ m.start.value.2.sampling =
      if sampled then (if canWait m.interval then .underWay else .ended false) else .idle := by
  have hrunning : m.running = false := by
    unfold running
    rw [hidle]
    rfl
  unfold Monitor.start
  rw [hrunning, Bool.or_false]
  cases hsampler : m.sampler with
  | none =>
    refine ⟨h, ?_⟩
    rw [← h.sampler, hsampler]
    exact hidle
  | some samples =>
    obtain ⟨hready, hsampling⟩ := h.round
    refine ⟨hready, ?_⟩
    rw [← h.sampler, hsampler]
    exact hsampling

end Ready

end Monitor
end ScriptProfiling
