import ScriptProfiling.Proofs.Aggregator.Window
import ScriptProfiling.Proofs.Number.Magnitude
import Mathlib.Data.List.Chain

/-!
# How long a session lasts

Starts, stops and resets may be refused. Those that are granted in a run tell the time of its
session: it runs from the latest start, to the stop behind it if there is one, and there is none
if a reset has come after every start. What is refused and what is recorded leaves no trace in it.
-/
namespace ScriptProfiling

/-- A start, a stop or a reset that has been granted. -/
inductive Grant where
  | start (now : Binary64)
  | stop (now : Binary64)
  | reset
  deriving DecidableEq

namespace Grant

def isStop : Grant → Bool
  | .stop _ => true
  | _ => false

/-- Whether the session runs behind a start or a stop. -/
def switch? : Grant → Option Bool
  | .start _ => some true
  | .stop _ => some false
  | .reset => none

/-- The starts and the stops among some grants, in their order. -/
def switches (grants : List Grant) : List Bool := grants.filterMap switch?

/-- Whether the last start or stop was a start. -/
def running (grants : List Grant) : Bool := (switches grants).getLast?.getD false

/-- Every start is followed by a reset. -/
def Unopened (grants : List Grant) : Prop :=
  ∀ before start after, grants = before ++ .start start :: after → .reset ∈ after

/-- The latest start, with no reset behind it, and all that has been granted since. -/
structure LatestStart (grants : List Grant) (start : Binary64) (since : List Grant) : Prop where
  split : ∃ before, grants = before ++ .start start :: since
  latest : ∀ now, .start now ∉ since
  unreset : .reset ∉ since

/-- Starts and stops in turn, a start first. -/
structure Alternate (switches : List Bool) : Prop where
  first : switches.head? ≠ some false
  turns : switches.IsChain (· ≠ ·)

section Lists

variable {grants since : List Grant} {start : Binary64}

theorem running_append_switch {g : Grant} {b : Bool} (h : g.switch? = some b) :
    running (grants ++ [g]) = b := by
  simp [running, switches, h]

theorem switches_append_reset (grants : List Grant) :
    switches (grants ++ [.reset]) = switches grants := by
  simp [switches, List.filterMap_append, switch?]

theorem running_append_reset (grants : List Grant) :
    running (grants ++ [.reset]) = running grants := by
  rw [running, switches_append_reset, running]

theorem alternate_nil : Alternate [] := ⟨by simp, List.isChain_nil⟩

theorem Alternate.concat {bs : List Bool} (h : Alternate bs) {b : Bool}
    (hlast : bs.getLast?.getD false ≠ b) : Alternate (bs ++ [b]) := by
  constructor
  · cases bs with
    | nil =>
      intro hfirst
      exact hlast (Option.some.inj hfirst).symm
    | cons c bs => exact h.first
  · apply h.turns.append (List.isChain_singleton b)
    intro c hc d hd
    obtain rfl : b = d := Option.some.inj hd
    intro heq
    apply hlast
    rw [Option.mem_def.mp hc, heq]
    rfl

theorem alternate_append (h : Alternate (switches grants)) {g : Grant} {b : Bool}
    (hg : g.switch? = some b) (hrunning : running grants ≠ b) :
    Alternate (switches (grants ++ [g])) := by
  have hswitches : switches (grants ++ [g]) = switches grants ++ [b] := by simp [switches, hg]
  rw [hswitches]
  exact h.concat hrunning

theorem unopened_nil : Unopened [] := by
  intro before start after h
  simp at h

theorem unopened_append_reset (grants : List Grant) : Unopened (grants ++ [.reset]) := by
  intro before start after h
  have hlast := congrArg List.getLast? h
  rw [List.getLast?_concat, List.getLast?_append_cons] at hlast
  cases after with
  | nil => simp at hlast
  | cons g after =>
    rw [List.getLast?_cons_cons] at hlast
    exact List.mem_of_getLast? hlast.symm

theorem latestStart_append_start (grants : List Grant) (start : Binary64) :
    LatestStart (grants ++ [.start start]) start [] :=
  ⟨⟨grants, rfl⟩, fun _ => List.not_mem_nil, List.not_mem_nil⟩

theorem LatestStart.append_stop (h : LatestStart grants start since) (finish : Binary64) :
    LatestStart (grants ++ [.stop finish]) start (since ++ [.stop finish]) := by
  obtain ⟨before, hsplit⟩ := h.split
  refine ⟨⟨before, by simp [hsplit]⟩, ?_, ?_⟩
  · intro now
    simpa using h.latest now
  · simpa using h.unreset

end Lists

end Grant

/-- The grants behind which a window is as it is. -/
def Window.Granted (grants : List Grant) : Window → Prop
  | .unopened => Grant.Unopened grants
  | .running start => Grant.LatestStart grants start []
  | .ended start finish => Grant.LatestStart grants start [.stop finish]

namespace Aggregator

/-- The aggregator after some operations. The next one follows also behind one that failed. -/
def after (a : Aggregator) (ops : List Operation) : Aggregator :=
  ops.foldl (fun a op => (a.perform op).2) a

/-- What an operation is granted, by its answer. -/
def grant? (a : Aggregator) : Operation → Option Grant
  | .start now => if (a.start now).value.1 then some (.start now) else none
  | .stop now => if (a.stop now).value.1 then some (.stop now) else none
  | .reset => if a.reset.value.1 then some .reset else none
  | .record _ => none

/-- All that is granted in a run, the first at the front. -/
def grants (a : Aggregator) : List Operation → List Grant
  | [] => []
  | op :: ops => (a.grant? op).toList ++ (a.perform op).2.grants ops

section Answers

variable (a : Aggregator) (now : Binary64)

theorem start_answer : (a.start now).value.1 = !a.active := by
  unfold start
  cases a.active <;> rfl

theorem stop_answer : (a.stop now).value.1 = a.active := by
  unfold stop active
  cases a.window <;> rfl

theorem reset_answer : a.reset.value.1 = !a.active := by
  unfold reset
  cases a.active <;> rfl

end Answers

/-- An operation is granted nothing and leaves the time of the session alone, or it starts a
session, ends the one that runs, or drops the time of one that does not. -/
theorem grant_cases (a : Aggregator) (op : Operation) :
    (a.grant? op = none ∧ (a.perform op).2.window = a.window) ∨
    (∃ now, a.active = false ∧ a.grant? op = some (.start now) ∧
      (a.perform op).2.window = .running now) ∨
    (∃ start now, a.window = .running start ∧ a.grant? op = some (.stop now) ∧
      (a.perform op).2.window = .ended start now) ∨
    (a.active = false ∧ a.grant? op = some .reset ∧ (a.perform op).2.window = .unopened) := by
  cases op with
  | start now =>
    cases ha : a.active with
    | true =>
      refine Or.inl ⟨?_, ?_⟩
      · simp [grant?, start_answer, ha]
      · simp [perform, start, ha, Logged.silent]
    | false =>
      refine Or.inr (Or.inl ⟨now, rfl, ?_, ?_⟩)
      · simp [grant?, start_answer, ha]
      · simp [perform, start, ha]
  | stop now =>
    cases hw : a.window with
    | running begun =>
      refine Or.inr (Or.inr (Or.inl ⟨begun, now, rfl, ?_, ?_⟩))
      · simp [grant?, stop, hw]
      · simp [perform, stop, hw]
    | unopened =>
      refine Or.inl ⟨?_, ?_⟩
      · simp [grant?, stop, hw, Logged.silent]
      · simp [perform, stop, hw, Logged.silent]
    | ended begun finish =>
      refine Or.inl ⟨?_, ?_⟩
      · simp [grant?, stop, hw, Logged.silent]
      · simp [perform, stop, hw, Logged.silent]
  | reset =>
    cases ha : a.active with
    | true =>
      refine Or.inl ⟨?_, ?_⟩
      · simp [grant?, reset_answer, ha]
      · simp [perform, reset, ha]
    | false =>
      refine Or.inr (Or.inr (Or.inr ⟨rfl, ?_, ?_⟩))
      · simp [grant?, reset_answer, ha]
      · simp [perform, reset, ha, Logged.silent, fresh]
  | record r => exact Or.inl ⟨rfl, window_record a r⟩

/-- An aggregator is as the grants say: in the time of its session, in whether one runs, and in
that starts and stops have come in turn. -/
structure Timed (a : Aggregator) (grants : List Grant) : Prop where
  window : a.window.Granted grants
  active : a.active = Grant.running grants
  alternate : Grant.Alternate (Grant.switches grants)

namespace Timed

variable {a : Aggregator} {grants : List Grant}

theorem fresh : Timed .fresh [] := ⟨Grant.unopened_nil, rfl, Grant.alternate_nil⟩

theorem perform (h : Timed a grants) (op : Operation) :
    Timed (a.perform op).2 (grants ++ (a.grant? op).toList) := by
  rcases a.grant_cases op with ⟨hgrant, hwindow⟩ | ⟨now, hidle, hgrant, hwindow⟩ |
    ⟨start, now, hrunning, hgrant, hwindow⟩ | ⟨hidle, hgrant, hwindow⟩
  · rw [hgrant, Option.toList_none, List.append_nil]
    constructor
    · rw [hwindow]
      exact h.window
    · rw [active_eq_of_window hwindow]
      exact h.active
    · exact h.alternate
  · rw [hgrant, Option.toList_some]
    constructor
    · rw [hwindow]
      exact Grant.latestStart_append_start grants now
    · simp [Aggregator.active, hwindow, Grant.running_append_switch, Grant.switch?]
    · apply Grant.alternate_append h.alternate rfl
      simp [← h.active, hidle]
  · have hactive : a.active = true := by simp [Aggregator.active, hrunning]
    rw [hgrant, Option.toList_some]
    constructor
    · have hlatest := h.window
      rw [hrunning] at hlatest
      rw [hwindow]
      exact hlatest.append_stop now
    · simp [Aggregator.active, hwindow, Grant.running_append_switch, Grant.switch?]
    · apply Grant.alternate_append h.alternate rfl
      simp [← h.active, hactive]
  · rw [hgrant, Option.toList_some]
    constructor
    · rw [hwindow]
      exact Grant.unopened_append_reset grants
    · rw [Grant.running_append_reset, ← h.active, hidle]
      simp [Aggregator.active, hwindow]
    · rw [Grant.switches_append_reset]
      exact h.alternate

theorem after (h : Timed a grants) (ops : List Operation) :
    Timed (a.after ops) (grants ++ a.grants ops) := by
  induction ops generalizing a grants with
  | nil => simpa [Aggregator.after, Aggregator.grants] using h
  | cons op ops ih => simpa [Aggregator.after, Aggregator.grants] using ih (h.perform op)

/-- The time of a session in closed form. -/
theorem duration (h : Timed a grants) :
    (Grant.Unopened grants ∧ ∀ now, a.durationMs now = .zero false) ∨
    ∃ start since, Grant.LatestStart grants start since ∧
      ((since = [] ∧ a.active = true ∧ ∀ now, a.durationMs now = millisBetween start now) ∨
        ∃ finish, since = [.stop finish] ∧ a.active = false ∧
          ∀ now, a.durationMs now = millisBetween start finish) := by
  have hwindow := h.window
  cases hw : a.window with
  | unopened =>
    rw [hw] at hwindow
    exact Or.inl ⟨hwindow, fun now => by rw [durationMs, hw]⟩
  | running start =>
    rw [hw] at hwindow
    refine Or.inr ⟨start, [], hwindow, Or.inl ⟨rfl, ?_, fun now => ?_⟩⟩
    · simp [Aggregator.active, hw]
    · rw [durationMs, hw]
  | ended start finish =>
    rw [hw] at hwindow
    refine Or.inr ⟨start, _, hwindow, Or.inr ⟨finish, rfl, ?_, fun now => ?_⟩⟩
    · simp [Aggregator.active, hw]
    · rw [durationMs, hw]

end Timed

section Durations

variable {a b : Aggregator}

theorem durationMs_eq_of_window (h : b.window = a.window) (now : Binary64) :
    b.durationMs now = a.durationMs now := by
  unfold durationMs
  rw [h]

theorem window_after_of_stops (hidle : a.active = false) {later : List Operation}
    (h : (a.grants later).all Grant.isStop = true) : (a.after later).window = a.window := by
  induction later generalizing a with
  | nil => rfl
  | cons op later ih =>
    rw [grants, List.all_append, Bool.and_eq_true] at h
    obtain ⟨hfirst, hlater⟩ := h
    rcases a.grant_cases op with ⟨-, hwindow⟩ | ⟨now, -, hgrant, -⟩ | ⟨start, now, hrunning, -, -⟩ |
      ⟨-, hgrant, -⟩
    · have hstill : (a.perform op).2.active = false := by rw [active_eq_of_window hwindow, hidle]
      exact (ih hstill hlater).trans hwindow
    · rw [hgrant] at hfirst
      simp [Grant.isStop] at hfirst
    · simp [active, hrunning] at hidle
    · rw [hgrant] at hfirst
      simp [Grant.isStop] at hfirst

theorem durationMs_after_stop (hactive : a.active = true) (finish : Binary64)
    {later : List Operation}
    (h : ((a.stop finish).value.2.grants later).all Grant.isStop = true) (now now' : Binary64) :
    ((a.stop finish).value.2.after later).durationMs now' =
      (a.stop finish).value.2.durationMs now := by
  have hidle := active_stop a finish
  rw [durationMs_eq_of_window (window_after_of_stops hidle h)]
  cases hw : a.window with
  | running start => simp [stop, hw, durationMs]
  | unopened => simp [active, hw] at hactive
  | ended start finish => simp [active, hw] at hactive

/-- No time is negative, also when a clock goes back or is no number. -/
theorem millisBetween_nonneg (start finish : Binary64) :
    (Number.float (millisBetween start finish)).ge (.int 0) = true := by
  have hzero : (Number.float (.zero false)).ge (.int 0) = true := by decide +kernel
  unfold millisBetween Binary64.max
  split
  · next hlt =>
    -- what is above a zero of either kind is above the whole number too
    obtain ⟨low, high, hlow, hhigh, h⟩ := Scaled.lt_iff.mp hlt
    obtain ⟨low', zero, hlow', hint, hle⟩ := Scaled.ge_iff.mp hzero
    obtain rfl := Option.some.inj (hlow.symm.trans hlow')
    exact Scaled.ge_iff.mpr ⟨high, zero, hhigh, hint, hle.trans h.le⟩
  · exact hzero

theorem durationMs_nonneg (a : Aggregator) (now : Binary64) :
    (Number.float (a.durationMs now)).ge (.int 0) = true := by
  unfold durationMs
  split
  · decide +kernel
  · exact millisBetween_nonneg _ _
  · exact millisBetween_nonneg _ _

end Durations

/-- After every run, the time of the session is nothing if no start was granted since the last
reset that was, and else runs from the latest such start, to the stop that followed it or to the
present reading while none has. It is never negative, stands still behind a stop until a start or
a reset is granted, and does not depend on what is refused or recorded. Starts and stops are
granted in turn, and resets exactly while no session runs. -/
theorem duration_granted (ops : List Operation) :
    let a := fresh.after ops
    let grants := fresh.grants ops
    ((Grant.Unopened grants ∧ ∀ now, a.durationMs now = .zero false) ∨
      ∃ start since, Grant.LatestStart grants start since ∧
        ((since = [] ∧ a.active = true ∧ ∀ now, a.durationMs now = millisBetween start now) ∨
          ∃ finish, since = [.stop finish] ∧ a.active = false ∧
            ∀ now, a.durationMs now = millisBetween start finish)) ∧
    (∀ now, (Number.float (a.durationMs now)).ge (.int 0) = true) ∧
    (∀ finish later now now', a.active = true →
      ((a.stop finish).value.2.grants later).all Grant.isStop = true →
      ((a.stop finish).value.2.after later).durationMs now' =
        (a.stop finish).value.2.durationMs now) ∧
    (∀ op, a.grant? op = none → ∀ now, (a.perform op).2.durationMs now = a.durationMs now) ∧
    (∀ r, a.grant? (.record r) = none) ∧
    Grant.Alternate (Grant.switches grants) ∧
    a.active = Grant.running grants ∧
    (∀ now, (a.start now).value.1 = !a.active) ∧ (∀ now, (a.stop now).value.1 = a.active) ∧
    a.reset.value.1 = !a.active := by
  intro a grants
  have htimed : Timed a grants := Timed.fresh.after ops
  refine ⟨htimed.duration, a.durationMs_nonneg, ?_, ?_, fun r => rfl, htimed.alternate,
    htimed.active, a.start_answer, a.stop_answer, a.reset_answer⟩
  · intro finish later now now' hactive hstops
    exact durationMs_after_stop hactive finish hstops now now'
  · intro op hrefused now
    rcases a.grant_cases op with ⟨-, hwindow⟩ | ⟨_, -, hgrant, -⟩ | ⟨_, _, -, hgrant, -⟩ |
      ⟨-, hgrant, -⟩
    · exact durationMs_eq_of_window hwindow now
    all_goals
      rw [hrefused] at hgrant
      cases hgrant

/-- Two sessions with what is refused around them. The second one begins on a clock that has gone
back, and it ends at a time before it began. -/
def backwardDay : List Operation :=
  let join : MetricKey := ⟨"shop.sk", 1, "event"⟩
  [.stop (.ofIntNearest 1), .start (.ofIntNearest 100), .start (.ofIntNearest 101),
    .record (.span join .null "late"), .reset, .stop (.ofIntNearest 103),
    .stop (.ofIntNearest 104), .start (.ofIntNearest 50), .stop (.ofIntNearest 20)]

/-- The first session has lasted three seconds once it is stopped, and the second one no time. -/
theorem duration_granted_backwardDay :
    let first := fresh.after (backwardDay.take 5)
    let ended := (first.stop (.ofIntNearest 103)).value.2
    first.active = true ∧
    (∀ now, (ended.after [.stop (.ofIntNearest 104)]).durationMs now = .ofIntNearest 3000) ∧
    fresh.grants backwardDay = [.start (.ofIntNearest 100), .stop (.ofIntNearest 103),
      .start (.ofIntNearest 50), .stop (.ofIntNearest 20)] ∧
    ∀ now, (fresh.after backwardDay).durationMs now = .zero false := by
  intro first ended
  have hactive : first.active = true := by decide
  have hgrants : fresh.grants backwardDay = [.start (.ofIntNearest 100), .stop (.ofIntNearest 103),
      .start (.ofIntNearest 50), .stop (.ofIntNearest 20)] := by decide
  refine ⟨hactive, fun now => ?_, hgrants, ?_⟩
  · obtain ⟨-, -, hfrozen, -⟩ := duration_granted (backwardDay.take 5)
    have hmillis : millisBetween (.ofIntNearest 100) (.ofIntNearest 103) = .ofIntNearest 3000 := by
      decide +kernel
    exact (hfrozen _ [.stop (.ofIntNearest 104)] now now hactive (by decide)).trans hmillis
  · obtain ⟨hduration, -⟩ := duration_granted backwardDay
    rw [hgrants] at hduration
    rcases hduration with ⟨-, hzero⟩ | ⟨start, since, hlatest, ⟨rfl, -⟩ | ⟨finish, rfl, -, htime⟩⟩
    · exact hzero
    · obtain ⟨before, hsplit⟩ := hlatest.split
      have hlast := congrArg List.getLast? hsplit
      simp at hlast
    · obtain ⟨before, hsplit⟩ := hlatest.split
      change [_, _] ++ [_, _] = before ++ [_, _] at hsplit
      have hpair := List.append_inj_right' hsplit rfl
      simp only [List.cons.injEq, Grant.start.injEq, Grant.stop.injEq, and_true] at hpair
      obtain ⟨rfl, rfl⟩ := hpair
      intro now
      rw [htime now]
      decide +kernel

end Aggregator
end ScriptProfiling
