import ScriptProfiling.Proofs.Aggregator.Operation

/-!
# Histories

The history of an aggregator is the list of what it was told, the oldest first. Which
observations count is read off the history alone: those that came while a session ran
and after the last reset that was not refused.
-/
namespace ScriptProfiling

/-- An execution as an aggregator is told of it: the data of a trace entry. -/
abbrev Observation := TraceEntry

inductive Happening where
  | start (now : Binary64)
  | stop (now : Binary64)
  | reset
  | observe (o : Observation)

namespace Recording

/-- What a recording tells. A span lasts from the reading of its handle to the present
one and goes by the name given now, else by the name of its handle. -/
def observations : Recording → List Observation
  | .span key duration name =>
    match duration.toWhole with
    | .ok d => [⟨key, name, some d⟩]
    | .error _ => []
  | .occurrence key name => [⟨key, name, none⟩]
  | .close _ none _ _ => []
  | .close now (some h) key name =>
    [⟨key, if name.isEmpty then h.identifier else name, some (now - h.started)⟩]
  | .replay entries => entries

end Recording

def Operation.happenings : Operation → List Happening
  | .start now => [.start now]
  | .stop now => [.stop now]
  | .reset => [.reset]
  | .record r => r.observations.map .observe

/-- All that a program tells, in order. -/
def Program.history (p : Program) : List Happening :=
  (p.run (fun past op => (none, past ++ op.happenings)) ⟨[], []⟩).2.state

namespace Happening

/-- The state that a start or a stop switches to. -/
def switch? : Happening → Option Bool
  | .start _ => some true
  | .stop _ => some false
  | _ => none

def isReset : Happening → Bool
  | .reset => true
  | _ => false

end Happening

namespace History

/-- A session runs if the last start or stop was a start. -/
def running (past : List Happening) : Bool :=
  ((past.filterMap Happening.switch?).getLast?).getD false

/-- Whether a reset is to come that finds no session running. -/
def dropsAfter (past : List Happening) : List Happening → Bool
  | [] => false
  | e :: rest => (e.isReset && !running past) || dropsAfter (past ++ [e]) rest

/-- The observations that count among those to come. -/
def acceptedAfter (past : List Happening) : List Happening → List Observation
  | [] => []
  | .observe o :: rest =>
    if running past && !dropsAfter (past ++ [.observe o]) rest then
      o :: acceptedAfter (past ++ [.observe o]) rest
    else acceptedAfter (past ++ [.observe o]) rest
  | e :: rest => acceptedAfter (past ++ [e]) rest

/-- The observations that count: a session ran when they came, and no reset that was not
refused came later. -/
def accepted (history : List Happening) : List Observation := acceptedAfter [] history

theorem running_append_singleton (past : List Happening) (e : Happening) :
    running (past ++ [e]) = e.switch?.getD (running past) := by
  cases h : e.switch? <;> simp [running, List.filterMap_append, h]

theorem dropsAfter_append_singleton (past rest : List Happening) (e : Happening) :
    dropsAfter past (rest ++ [e]) =
      (dropsAfter past rest || (e.isReset && !running (past ++ rest))) := by
  induction rest generalizing past with
  | nil => simp [dropsAfter]
  | cons first rest ih => simp [dropsAfter, ih, Bool.or_assoc]

/-- A last happening that drops nothing leaves what counts and may add to it. -/
theorem acceptedAfter_append_singleton (past rest : List Happening) (e : Happening)
    (h : (e.isReset && !running (past ++ rest)) = false) :
    acceptedAfter past (rest ++ [e]) =
      acceptedAfter past rest ++ acceptedAfter (past ++ rest) [e] := by
  induction rest generalizing past with
  | nil => simp [acceptedAfter]
  | cons first rest ih =>
    have hrest := ih (past ++ [first]) (by simpa using h)
    have hdrops : dropsAfter (past ++ [first]) (rest ++ [e]) =
        dropsAfter (past ++ [first]) rest := by
      rw [dropsAfter_append_singleton, List.append_assoc, List.singleton_append, h, Bool.or_false]
    rw [List.append_assoc, List.singleton_append] at hrest
    cases first with
    | observe o =>
      simp only [List.cons_append, acceptedAfter, hrest, hdrops]
      split <;> rfl
    | _ => simpa only [List.cons_append, acceptedAfter] using hrest

theorem acceptedAfter_eq_nil (past rest : List Happening) (h : running (past ++ rest) = false) :
    acceptedAfter past (rest ++ [.reset]) = [] := by
  induction rest generalizing past with
  | nil => rfl
  | cons first rest ih =>
    have hrest := ih (past ++ [first]) (by simpa using h)
    have hdrops : dropsAfter (past ++ [first]) (rest ++ [.reset]) = true := by
      rw [dropsAfter_append_singleton, List.append_assoc, List.singleton_append, h]
      simp [Happening.isReset]
    cases first with
    | observe o => simp [acceptedAfter, hrest, hdrops]
    | _ => simpa only [List.cons_append, acceptedAfter] using hrest

theorem accepted_observe (past : List Happening) (o : Observation) :
    accepted (past ++ [.observe o]) =
      if running past then accepted past ++ [o] else accepted past := by
  rw [accepted, acceptedAfter_append_singleton _ _ _ rfl]
  cases h : running past <;> simp [acceptedAfter, dropsAfter, h, accepted]

theorem accepted_reset (past : List Happening) :
    accepted (past ++ [.reset]) = if running past then accepted past else [] := by
  cases h : running past with
  | true =>
    rw [accepted, acceptedAfter_append_singleton _ _ _ (by simp [h])]
    simp [acceptedAfter, accepted]
  | false => simpa [accepted] using acceptedAfter_eq_nil [] past (by simpa using h)

theorem accepted_start (past : List Happening) (now : Binary64) :
    accepted (past ++ [.start now]) = accepted past := by
  rw [accepted, acceptedAfter_append_singleton _ _ _ rfl]
  simp [acceptedAfter, accepted]

theorem accepted_stop (past : List Happening) (now : Binary64) :
    accepted (past ++ [.stop now]) = accepted past := by
  rw [accepted, acceptedAfter_append_singleton _ _ _ rfl]
  simp [acceptedAfter, accepted]

end History
end ScriptProfiling
