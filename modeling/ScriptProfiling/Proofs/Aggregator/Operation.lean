import ScriptProfiling.Trace

/-!
# Programs around an aggregator

Hosts start and stop sessions, tell of executions, and open and close spans in any
order; a timed block is closed also when its body fails. Programs of this kind get a
syntax here, so that statements can speak of every run. A program runs on anything
that operations act on: on an aggregator, or on the mere history of what was told.
-/
namespace ScriptProfiling

/-- One way to tell an aggregator of executions. A span is closed with the handle that
its beginning gave, or with none. -/
inductive Recording where
  | span (key : MetricKey) (duration : Value) (name : String)
  | occurrence (key : MetricKey) (name : String)
  | close (now : Int) (handle : Option SpanHandle) (key : MetricKey) (name : String)
  | replay (entries : List TraceEntry)

/-- Whether the duration that is told, if there is one, counts as a whole number. -/
def Recording.whole : Recording → Bool
  | .span _ duration _ => duration.toWhole.isOk
  | _ => true

inductive Operation where
  | start (now : Binary64)
  | stop (now : Binary64)
  | reset
  | record (r : Recording)

def Operation.whole : Operation → Bool
  | .record r => r.whole
  | _ => true

namespace Aggregator

def record (a : Aggregator) : Recording → Option Fault × Aggregator
  | .span key duration name => a.recordSpan key duration name
  | .occurrence key name => (none, a.recordOccurrence key name)
  | .close now handle key name => (none, a.endSpan now handle key name)
  | .replay entries => (none, a.replay entries)

def perform (a : Aggregator) : Operation → Option Fault × Aggregator
  | .start now => (none, (a.start now).value.2)
  | .stop now => (none, (a.stop now).value.2)
  | .reset => (none, a.reset.value.2)
  | .record r => a.record r

end Aggregator

/-- What a host does. It keeps span handles in numbered places and may use each of them
any number of times. -/
inductive Program where
  | done
  | fail (f : Fault)
  | perform (op : Operation) (next : Program)
  | begin (place : Nat) (now : Int) (identifier : String) (next : Program)
  | finish (place : Nat) (now : Int) (key : MetricKey) (name : String) (next : Program)
  /-- A block that is timed as one span. -/
  | within (place : Nat) (begun : Int) (key : MetricKey) (name : String) (body : Program)
      (ended : Int) (next : Program)
  /-- What comes next runs also if the body fails. -/
  | attempt (body next : Program)

/-- What operations act on, and the handles that the host holds. -/
structure Desk (σ : Type) where
  state : σ
  handles : List (Nat × SpanHandle)

namespace Desk

variable {σ : Type}

def handle? (d : Desk σ) (place : Nat) : Option SpanHandle := d.handles.lookup place

def hold (d : Desk σ) (place : Nat) (h : SpanHandle) : Desk σ :=
  { d with handles := (place, h) :: d.handles }

def apply (act : σ → Operation → Option Fault × σ) (d : Desk σ) (op : Operation) :
    Option Fault × Desk σ :=
  let acted := act d.state op
  (acted.1, { d with state := acted.2 })

end Desk

namespace Program

/-- Goes on unless there was a fault. -/
def unlessFailed {α : Type} (r : Option Fault × α) (next : α → Option Fault × α) :
    Option Fault × α :=
  match r.1 with
  | some f => (some f, r.2)
  | none => next r.2

/-- Runs a program to its end or to the first fault that is not caught. -/
def run {σ : Type} (act : σ → Operation → Option Fault × σ) :
    Program → Desk σ → Option Fault × Desk σ
  | .done, d => (none, d)
  | .fail f, d => (some f, d)
  | .perform op next, d => unlessFailed (d.apply act op) (next.run act)
  | .begin place now identifier next, d =>
    next.run act (d.hold place (Aggregator.beginSpan now identifier))
  | .finish place now key name next, d =>
    unlessFailed (d.apply act (.record (.close now (d.handle? place) key name))) (next.run act)
  | .within place begun key name body ended next, d =>
    let h := Aggregator.beginSpan begun name
    let left := body.run act (d.hold place h)
    let closed := left.2.apply act (.record (.close ended (some h) key name))
    unlessFailed (closed.1.or left.1, closed.2) (next.run act)
  | .attempt body next, d => next.run act (body.run act d).2

/-- Whether every duration that the program may tell counts as a whole number. -/
def whole : Program → Bool
  | .done | .fail _ => true
  | .perform op next => op.whole && next.whole
  | .begin _ _ _ next => next.whole
  | .finish _ _ _ _ next => next.whole
  | .within _ _ _ _ body _ next => body.whole && next.whole
  | .attempt body next => body.whole && next.whole

/-- The aggregator that a program leaves behind when it began with a fresh one. -/
def aggregator (p : Program) : Aggregator := (p.run Aggregator.perform ⟨.fresh, []⟩).2.state

section Simulation

variable {σ τ : Type} {R : σ → τ → Prop}
  {act : σ → Operation → Option Fault × σ} {act' : τ → Operation → Option Fault × τ}

/-- Two outcomes agree: in the fault, in the handles, and in the states up to `R`. -/
def Agree (R : σ → τ → Prop) (x : Option Fault × Desk σ) (y : Option Fault × Desk τ) : Prop :=
  x.1 = y.1 ∧ x.2.handles = y.2.handles ∧ R x.2.state y.2.state

theorem Agree.unlessFailed {x : Option Fault × Desk σ} {y : Option Fault × Desk τ}
    (h : Agree R x y) {f : Desk σ → Option Fault × Desk σ} {g : Desk τ → Option Fault × Desk τ}
    (hfg : ∀ d e, d.handles = e.handles → R d.state e.state → Agree R (f d) (g e)) :
    Agree R (Program.unlessFailed x f) (Program.unlessFailed y g) := by
  obtain ⟨xf, d⟩ := x
  obtain ⟨yf, e⟩ := y
  obtain ⟨hf, hh, hR⟩ := h
  obtain rfl : xf = yf := hf
  cases xf with
  | some f => exact ⟨rfl, hh, hR⟩
  | none => exact hfg d e hh hR

theorem run_agree
    (hact : ∀ s t op, op.whole = true → R s t →
      (act s op).1 = (act' t op).1 ∧ R (act s op).2 (act' t op).2)
    (p : Program) (hp : p.whole = true) (d : Desk σ) (e : Desk τ)
    (hh : d.handles = e.handles) (hR : R d.state e.state) :
    Agree R (p.run act d) (p.run act' e) := by
  have happly : ∀ (d : Desk σ) (e : Desk τ) (op : Operation), op.whole = true →
      d.handles = e.handles → R d.state e.state → Agree R (d.apply act op) (e.apply act' op) := by
    intro d e op hop hh hR
    obtain ⟨hf, hs⟩ := hact d.state e.state op hop hR
    exact ⟨hf, hh, hs⟩
  induction p generalizing d e with
  | done => exact ⟨rfl, hh, hR⟩
  | fail f => exact ⟨rfl, hh, hR⟩
  | perform op next ih =>
    simp only [whole, Bool.and_eq_true] at hp
    exact (happly d e op hp.1 hh hR).unlessFailed (ih hp.2)
  | begin place now identifier next ih =>
    refine ih hp _ _ ?_ hR
    simp only [Desk.hold, hh]
  | finish place now key name next ih =>
    rw [run, run, Desk.handle?, Desk.handle?, hh]
    exact (happly d e _ rfl hh hR).unlessFailed (ih hp)
  | within place begun key name body ended next ihBody ihNext =>
    simp only [whole, Bool.and_eq_true] at hp
    have hheld : (d.hold place (Aggregator.beginSpan begun name)).handles =
        (e.hold place (Aggregator.beginSpan begun name)).handles := by
      simp only [Desk.hold, hh]
    obtain ⟨hf, hh', hR'⟩ := ihBody hp.1 _ _ hheld hR
    obtain ⟨hc, hh'', hR''⟩ := happly _ _
      (.record (.close ended (some (Aggregator.beginSpan begun name)) key name)) rfl hh' hR'
    rw [run, run]
    apply Agree.unlessFailed _ (ihNext hp.2)
    refine ⟨?_, hh'', hR''⟩
    rw [hf, hc]
  | attempt body next ihBody ihNext =>
    simp only [whole, Bool.and_eq_true] at hp
    obtain ⟨-, hh', hR'⟩ := ihBody hp.1 d e hh hR
    exact ihNext hp.2 _ _ hh' hR'

end Simulation

end Program
end ScriptProfiling
