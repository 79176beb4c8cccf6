import ScriptProfiling.Proofs.Aggregator.Operation

/-!
# The time of a session

Only a start, a stop and a reset touch the time of a session. Whatever an aggregator is
told of executions, also a duration that it refuses, leaves it as it is.
-/
namespace ScriptProfiling
namespace Aggregator

theorem active_eq_of_window {a b : Aggregator} (h : b.window = a.window) : b.active = a.active := by
  unfold active
  rw [h]

section Recordings

variable (a : Aggregator) (key : MetricKey) (name : String)

@[simp] theorem window_recordFor : (a.recordFor key name).2.window = a.window := by
  unfold recordFor
  split
  · rfl
  · split <;> rfl

@[simp] theorem window_recordSpan (duration : Value) :
    (a.recordSpan key duration name).2.window = a.window := by
  have hfor := window_recordFor a key name
  unfold recordSpan
  cases a.active with
  | false => rfl
  | true =>
    rcases hrecord : a.recordFor key name with ⟨_ | r, b⟩ <;> rw [hrecord] at hfor
    · exact hfor
    · cases duration.toWhole <;> exact hfor

@[simp] theorem window_recordOccurrence : (a.recordOccurrence key name).window = a.window := by
  have hfor := window_recordFor a key name
  unfold recordOccurrence
  cases a.active with
  | false => rfl
  | true => rcases hrecord : a.recordFor key name with ⟨_ | r, b⟩ <;> rwa [hrecord] at hfor

@[simp] theorem window_endSpan (now : Int) (handle : Option SpanHandle) :
    (a.endSpan now handle key name).window = a.window := by
  cases handle with
  | none => rfl
  | some h => exact window_recordSpan ..

@[simp] theorem window_replayEntry (e : TraceEntry) : (a.replayEntry e).window = a.window := by
  unfold replayEntry
  split
  · exact window_recordOccurrence ..
  · exact window_recordSpan ..

@[simp] theorem window_replay (entries : List TraceEntry) :
    (a.replay entries).window = a.window := by
  induction entries generalizing a with
  | nil => rfl
  | cons e entries ih => exact (ih (a.replayEntry e)).trans (window_replayEntry a e)

@[simp] theorem window_record (r : Recording) : (a.record r).2.window = a.window := by
  cases r with
  | span key duration name => exact window_recordSpan ..
  | occurrence key name => exact window_recordOccurrence ..
  | close now handle key name => exact window_endSpan ..
  | replay entries => exact window_replay ..

@[simp] theorem active_replayEntry (e : TraceEntry) : (a.replayEntry e).active = a.active :=
  active_eq_of_window (window_replayEntry a e)

@[simp] theorem active_record (r : Recording) : (a.record r).2.active = a.active :=
  active_eq_of_window (window_record a r)

end Recordings

section Lifecycle

variable (a : Aggregator) (now : Binary64)

@[simp] theorem active_start : (a.start now).value.2.active = true := by
  unfold start
  split
  · assumption
  · rfl

@[simp] theorem active_stop : (a.stop now).value.2.active = false := by
  unfold stop
  cases hwindow : a.window <;> simp [active, hwindow, Logged.silent]

@[simp] theorem active_reset : a.reset.value.2.active = a.active := by
  unfold reset
  cases ha : a.active with
  | true => exact ha
  | false => rfl

end Lifecycle

end Aggregator
end ScriptProfiling
