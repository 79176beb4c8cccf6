import ScriptProfiling.Proofs.Session.Effect
import Mathlib.Data.List.Induction
import Mathlib.Data.List.TakeWhile

/-!
# Histories of a session

What each step of a run came to, as an observer sees it: a start that succeeded, a stop that
succeeded or failed, a reset that was not refused, a recording, or a detection pass that found
its issues. What a session ought to hold is read off such a history alone. A stop that fails
ends the tracking, though not the session.
-/
namespace ScriptProfiling
namespace Session

inductive Event where
  | started
  | stopped
  /-- A stop has failed. -/
  | halted
  | cleared
  | recorded (r : Recording)
  | detected (issues : List Issue)

section Events

variable (s : Session)

def detection : List Event := (s.analyze.result.toOption.map Event.detected).toList

def directEvents : Step → List Event
  | .start feed now => if (s.start feed now).granted then [.started] else []
  | .stop now =>
    match (s.stop now).result with
    | .ok ended => if ended then [.stopped] else []
    | .error _ => [.halted]
  | .reset => if s.reset.value.1 then [.cleared] else []
  | .timeout generation now =>
    match (s.timeout generation now).result with
    | .ok _ => if s.active && !(s.timeout generation now).state.active then [.stopped] else []
    | .error _ => [.halted]
  | .analyze | .reportData _ => s.detection
  | .report .. => if s.aggregator.snapshot.isEmpty then [] else s.detection
  | .record r => [.recorded r]
  | _ => []

/-- What a step comes to, also when a command asks for it. -/
def events (step : Step) : List Event := (step.direct?.map s.directEvents).getD []

end Events

/-- All that a run comes to, in order. -/
def history (s : Session) : List Step → List Event
  | [] => []
  | step :: steps => s.events step ++ (s.perform step).history steps

namespace Event

def isStart : Event → Bool
  | .started => true
  | _ => false

def isClear : Event → Bool
  | .cleared => true
  | _ => false

/-- Whether no session runs behind an event. -/
def endsSession : Event → Bool
  | .stopped | .cleared => true
  | _ => false

/-- Whether nothing is tracked behind an event. -/
def endsTracking : Event → Bool
  | .stopped | .halted | .cleared => true
  | _ => false

def recording? : Event → Option Recording
  | .recorded r => some r
  | _ => none

/-- The issues that an event leaves, if it changes them at all. -/
def issues? : Event → Option (List Issue)
  | .started | .cleared => some []
  | .detected issues => some issues
  | _ => none

end Event

namespace Past

/-- What came after the last start, if there was one. -/
def sinceStart : List Event → Option (List Event)
  | [] => none
  | e :: rest => (sinceStart rest).or (if e.isStart then some rest else none)

/-- Whether what began before some events goes on after them. -/
def goesOn (ends : Event → Bool) (since : List Event) : Bool := !since.any ends

/-- The recordings of a session that began before some events. They come before its tracking
ends, and a reset drops them. -/
def told (since : List Event) : List Recording :=
  if since.any Event.isClear then []
  else (since.takeWhile (!·.endsTracking)).filterMap Event.recording?

/-- Whether what the last start has begun goes on. -/
def goingOn (ends : Event → Bool) (past : List Event) : Bool :=
  ((sinceStart past).map (goesOn ends)).getD false

def running (past : List Event) : Bool := goingOn Event.endsSession past

def tracking (past : List Event) : Bool := goingOn Event.endsTracking past

def recordings (past : List Event) : List Recording := ((sinceStart past).map told).getD []

/-- The issues of the last detection pass, unless a start or a reset came later. -/
def found (past : List Event) : List Issue := ((past.filterMap Event.issues?).getLast?).getD []

theorem sinceStart_append (past more : List Event) :
    sinceStart (past ++ more) = (sinceStart more).or ((sinceStart past).map (· ++ more)) := by
  induction past with
  | nil => simp [sinceStart]
  | cons first past ih =>
    rw [List.cons_append, sinceStart, sinceStart, ih]
    cases sinceStart more with
    | some since => rfl
    | none =>
      cases sinceStart past with
      | some since => rfl
      | none => cases first.isStart <;> rfl

theorem sinceStart_started (past : List Event) : sinceStart (past ++ [.started]) = some [] := by
  rw [sinceStart_append]
  rfl

theorem sinceStart_append_singleton (past : List Event) {e : Event} (he : e.isStart = false) :
    sinceStart (past ++ [e]) = (sinceStart past).map (· ++ [e]) := by
  have hnone : sinceStart [e] = none := by simp [sinceStart, he]
  rw [sinceStart_append, hnone, Option.none_or]

theorem found_append_singleton (past : List Event) (e : Event) :
    found (past ++ [e]) = e.issues?.getD (found past) := by
  cases h : e.issues? <;> simp [found, List.filterMap_append, h]

section Told

variable (since : List Event)

theorem goesOn_append_singleton (ends : Event → Bool) (e : Event) :
    goesOn ends (since ++ [e]) = (goesOn ends since && !ends e) := by
  simp [goesOn]

theorem told_cleared : told (since ++ [.cleared]) = [] := by
  simp [told, Event.isClear]

variable {since}

theorem isClear_of_not_endsTracking {e : Event} (h : e.endsTracking = false) :
    e.isClear = false := by
  cases e <;> first | rfl | cases h

theorem told_of_ended {e : Event} (h : goesOn Event.endsTracking since = false)
    (he : e.isClear = false) : told (since ++ [e]) = told since := by
  have hclear : (since ++ [e]).any Event.isClear = since.any Event.isClear := by simp [he]
  unfold told
  rw [hclear]
  split
  · rfl
  · have hends : ∃ x ∈ since, x.endsTracking = true := by simpa [goesOn] using h
    rw [List.takeWhile_append, if_neg]
    intro hlength
    have hall := List.takeWhile_eq_self_iff.mp ((List.takeWhile_prefix _).eq_of_length hlength)
    obtain ⟨x, hx, hxs⟩ := hends
    simpa [hxs] using hall x hx

theorem told_of_goesOn (h : goesOn Event.endsTracking since = true) :
    told since = since.filterMap Event.recording? := by
  have hnone : ∀ x ∈ since, x.endsTracking = false := by simpa [goesOn] using h
  have hkept : since.any Event.isClear = false := by
    simpa using fun x hx => isClear_of_not_endsTracking (hnone x hx)
  rw [told, hkept, if_neg Bool.false_ne_true, List.takeWhile_eq_self_iff.mpr]
  intro x hx
  simp [hnone x hx]

theorem told_recorded (r : Recording) :
    told (since ++ [.recorded r]) =
      if goesOn Event.endsTracking since then told since ++ [r] else told since := by
  cases h : goesOn Event.endsTracking since with
  | false => exact told_of_ended h rfl
  | true =>
    have hmore : goesOn Event.endsTracking (since ++ [.recorded r]) = true := by
      rw [goesOn_append_singleton, h]
      rfl
    rw [told_of_goesOn hmore, told_of_goesOn h, List.filterMap_append]
    rfl

theorem told_of_quiet {e : Event} (hclear : e.isClear = false) (hrecording : e.recording? = none) :
    told (since ++ [e]) = told since := by
  cases h : goesOn Event.endsTracking since with
  | false => exact told_of_ended h hclear
  | true =>
    have hnone : ∀ x ∈ since, x.endsTracking = false := by simpa [goesOn] using h
    have hsince : since.takeWhile (!·.endsTracking) = since :=
      List.takeWhile_eq_self_iff.mpr fun x hx => by simp [hnone x hx]
    have hkept : (since ++ [e]).any Event.isClear = false := by
      simpa [hclear] using fun x hx => isClear_of_not_endsTracking (hnone x hx)
    rw [told_of_goesOn h, told, if_neg (by simp [hkept]), List.takeWhile_append,
      if_pos (by rw [hsince]), List.filterMap_append]
    cases hends : e.endsTracking <;> simp [hends, hrecording]

end Told

section Snoc

variable (past : List Event)

theorem goingOn_started (ends : Event → Bool) : goingOn ends (past ++ [.started]) = true := by
  rw [goingOn, sinceStart_started]
  rfl

theorem goingOn_append_singleton (ends : Event → Bool) {e : Event} (he : e.isStart = false) :
    goingOn ends (past ++ [e]) = (goingOn ends past && !ends e) := by
  rw [goingOn, goingOn, sinceStart_append_singleton past he]
  cases sinceStart past with
  | none => rfl
  | some since => exact goesOn_append_singleton since ends e

variable {ends : Event → Bool} {e : Event}

theorem goingOn_of_ends (he : e.isStart = false) (h : ends e = true) :
    goingOn ends (past ++ [e]) = false := by
  rw [goingOn_append_singleton past ends he, h, Bool.not_true, Bool.and_false]

theorem goingOn_of_not_ends (he : e.isStart = false) (h : ends e = false) :
    goingOn ends (past ++ [e]) = goingOn ends past := by
  rw [goingOn_append_singleton past ends he, h, Bool.not_false, Bool.and_true]

theorem running_of_tracking {past : List Event} (h : tracking past = true) :
    running past = true := by
  unfold tracking at h
  unfold running
  unfold goingOn at h ⊢
  cases hsince : sinceStart past with
  | none =>
    rw [hsince] at h
    cases h
  | some since =>
    rw [hsince] at h
    have hnone : ∀ e ∈ since, e.endsTracking = false := by simpa [goesOn] using h
    have hkept : ∀ e ∈ since, e.endsSession = false := by
      intro e he
      have hnot := hnone e he
      cases e <;> first | rfl | cases hnot
    simpa [goesOn] using hkept

theorem recordings_started : recordings (past ++ [.started]) = [] := by
  rw [recordings, sinceStart_started]
  rfl

theorem recordings_cleared : recordings (past ++ [.cleared]) = [] := by
  rw [recordings, sinceStart_append_singleton past rfl]
  cases sinceStart past with
  | none => rfl
  | some since => exact told_cleared since

theorem recordings_recorded (r : Recording) :
    recordings (past ++ [.recorded r]) =
      if tracking past then recordings past ++ [r] else recordings past := by
  rw [recordings, recordings, tracking, goingOn, sinceStart_append_singleton past rfl]
  cases sinceStart past with
  | none => rfl
  | some since => exact told_recorded r

theorem recordings_of_quiet {e : Event} (hstart : e.isStart = false) (hclear : e.isClear = false)
    (hrecording : e.recording? = none) : recordings (past ++ [e]) = recordings past := by
  rw [recordings, recordings, sinceStart_append_singleton past hstart]
  cases sinceStart past with
  | none => rfl
  | some since => exact told_of_quiet hclear hrecording

end Snoc

end Past
end Session
end ScriptProfiling
