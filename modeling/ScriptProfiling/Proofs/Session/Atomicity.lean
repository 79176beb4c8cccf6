import ScriptProfiling.Proofs.Script.Batch
import ScriptProfiling.Proofs.Session.Observer

/-!
# Loads that fail

A session asks a provider for scripts, and its analyzer takes them in one by one. The provider may
refuse, give something that has no items, or fail after any number of them; and an item may be too
deep for the stack. To see what has been done by then, a reload and a start are told here as the
effects that they have in turn, each of which stays when a later one fails; told so, they come to
what the session makes of them. Until the last item is taken in, the only effects are on the
warnings of the analyzer: scripts are put aside, and a start does all else after that. So a load
that fails leaves the session as it is, and since an analyzer forgets its warnings with each batch,
a later load that does not fail comes to the same as without it.
-/
namespace ScriptProfiling

/-- What a provider of scripts does when it is asked. -/
inductive Provider where
  | refuses (f : Fault)
  | gives (v : Value)
  /-- Items come one by one, and there may be a fault in the place of the next one. -/
  | yields (items : List Value) (fault : Option Fault)

namespace Provider

def items : Provider → List Value
  | .refuses _ => []
  | .gives v => v.items?.getD []
  | .yields items _ => items

def fault? : Provider → Option Fault
  | .refuses f => some f
  | .gives v => if v.items?.isSome then none else some (.notIterable v.typeName)
  | .yields _ fault => fault

def feed (p : Provider) (room : Nat) (log : List LogEntry) : Feed :=
  ⟨p.items, p.fault?, log, room⟩

/-- What a load fails with: an item that ends the batch, or else the fault of the provider. -/
def failure? (p : Provider) (room : Nat) : Option Fault :=
  (Batch.ofItems room p.items).2.or p.fault?

section Failure

variable {p : Provider} {room : Nat}

theorem isSome_failure? (h : p.fault?.isSome) : (p.failure? room).isSome := by
  rw [failure?, Option.isSome_or, h, Bool.or_true]

theorem failure?_eq (h : ∀ item ∈ p.items, ScriptInfo.Shallow room item) :
    p.failure? room = p.fault? := by
  rw [failure?, Batch.ofItems_eq h, Option.none_or]

end Failure

end Provider

/-- A session with the analyzer that reads its scripts. -/
structure Bench where
  session : Session
  analyzer : Analyzer

/-- Effects on a session and its analyzer. Those before a fault stay. -/
abbrev Work := EStateM Fault Bench

namespace Bench

section Effects

def forget : Work Unit := modify fun b => { b with analyzer := .fresh }

def warn (f : Fault) : Work Unit :=
  modify fun b => { b with analyzer := ⟨b.analyzer.warnings ++ [Batch.warning f]⟩ }

def onSession (f : Session → Session) : Work Unit :=
  modify fun b => { b with session := f b.session }

/-- Takes in items one by one and puts their scripts aside. -/
def takeIn (room : Nat) (aside : Scripts) : List Value → Work Scripts
  | [] => return aside
  | item :: items =>
    match ScriptInfo.ofItem room item with
    | .ok info => takeIn room (aside.put info.path info) items
    | .error f => do
      if f.spoilsScript then warn f else throw f
      takeIn room aside items

def analyze (room : Nat) : Provider → Work Scripts
  | .refuses f => throw f
  | .gives v => do
    forget
    match v.items with
    | .ok items => takeIn room .empty items
    | .error f => throw f
  | .yields items fault => do
    forget
    let scripts ← takeIn room .empty items
    match fault with
    | none => return scripts
    | some f => throw f

def reload (room : Nat) (p : Provider) : Work Scripts := do
  let scripts ← analyze room p
  onSession fun s => { s with scripts := scripts }
  return scripts

def begin (now : Binary64) : Work Bool := do
  onSession fun s => { s with aggregator := s.aggregator.reset.value.2 }
  onSession fun s => { s with issues := [] }
  onSession fun s => { s with aggregator := (s.aggregator.start now).value.2 }
  onSession fun s =>
    if s.settings.loadAware.truthy then { s with monitor := s.monitor.start.value.2 } else s
  onSession fun s => { s with generation := s.generation + 1 }
  onSession fun s => { s with timer := s.timer || s.settings.maxDuration.gt (.int 0) }
  onSession fun s => { s with active := true }
  return true

def start (room : Nat) (p : Provider) (now : Binary64) : Work Bool := do
  if (← get).session.active then
    return false
  else
    let _ ← reload room p
    begin now

end Effects

section Analysis

variable {p : Provider} {room : Nat} (b : Bench)

/-- Items have no effects but their warnings, and these stay if an item fails. -/
theorem run_takeIn (room : Nat) (s : Session) (batch : Batch) (items : List Value) :
    (takeIn room batch.scripts items).run ⟨s, ⟨batch.warnings⟩⟩ =
      match batch.addAll room items with
      | (batch, none) => .ok batch.scripts ⟨s, ⟨batch.warnings⟩⟩
      | (batch, some f) => .error f ⟨s, ⟨batch.warnings⟩⟩ := by
  induction items generalizing batch with
  | nil => rfl
  | cons item items ih =>
    unfold takeIn Batch.addAll Batch.add
    cases ScriptInfo.ofItem room item with
    | ok info => exact ih { batch with scripts := batch.scripts.put info.path info }
    | error f =>
      dsimp only
      cases f.spoilsScript with
      | true => exact ih { batch with warnings := batch.warnings ++ [Batch.warning f] }
      | false => rfl

theorem run_forget_takeIn_of_broken {items : List Value} {f : Fault}
    (h : (Batch.ofItems room items).2 = some f) :
    ∃ a, (forget >>= fun _ => takeIn room .empty items).run b = .error f ⟨b.session, a⟩ := by
  have htaken := run_takeIn room b.session .empty items
  rw [show Batch.empty.addAll room items = (_, some f) from Prod.ext rfl h] at htaken
  exact ⟨_, htaken⟩

theorem run_forget_takeIn {items : List Value} (h : (Batch.ofItems room items).2 = none) :
    (forget >>= fun _ => takeIn room .empty items).run b =
      .ok (Batch.ofItems room items).1.scripts
        ⟨b.session, ⟨(Batch.ofItems room items).1.warnings⟩⟩ := by
  have htaken := run_takeIn room b.session .empty items
  rw [show Batch.empty.addAll room items = (_, none) from Prod.ext rfl h] at htaken
  exact htaken

/-- A fault is met before the session is touched. -/
theorem run_analyze_of_failure {f : Fault} (h : p.failure? room = some f) :
    ∃ a, (analyze room p).run b = .error f ⟨b.session, a⟩ := by
  cases p with
  | refuses g =>
    obtain rfl : g = f := Option.some.inj h
    exact ⟨b.analyzer, rfl⟩
  | gives v =>
    rw [Provider.failure?, Provider.items, Provider.fault?] at h
    rw [analyze, Value.items]
    cases hitems : v.items? with
    | none =>
      obtain rfl : Fault.notIterable v.typeName = f := by
        rw [hitems] at h
        exact Option.some.inj h
      exact ⟨.fresh, rfl⟩
    | some items =>
      rw [hitems, Option.isSome_some, if_pos rfl, Option.or_none] at h
      exact b.run_forget_takeIn_of_broken h
  | yields items fault =>
    have hanalyze : analyze room (.yields items fault) =
        (forget >>= fun _ => takeIn room .empty items) >>= fun scripts =>
          match fault with
          | none => return scripts
          | some f => throw f := by
      rw [bind_assoc]
      rfl
    unfold Provider.failure? at h
    rw [hanalyze, EStateM.run_bind]
    cases hbroken : (Batch.ofItems room items).2 with
    | some g =>
      obtain rfl : g = f := by
        rw [Provider.items, hbroken] at h
        exact Option.some.inj h
      obtain ⟨a, ha⟩ := b.run_forget_takeIn_of_broken hbroken
      rw [ha]
      exact ⟨a, rfl⟩
    | none =>
      obtain rfl : fault = some f := by
        rw [Provider.items, hbroken, Option.none_or] at h
        exact h
      rw [b.run_forget_takeIn hbroken]
      exact ⟨_, rfl⟩

theorem run_analyze (h : p.failure? room = none) :
    (analyze room p).run b = .ok (Batch.ofItems room p.items).1.scripts
      ⟨b.session, ⟨(Batch.ofItems room p.items).1.warnings⟩⟩ := by
  obtain ⟨hwhole, hfault⟩ := Option.or_eq_none_iff.mp h
  cases p with
  | refuses g => cases hfault
  | gives v =>
    rw [Provider.fault?] at hfault
    rw [Provider.items] at hwhole ⊢
    rw [analyze, Value.items]
    cases hitems : v.items? with
    | none => simp [hitems] at hfault
    | some items =>
      rw [hitems] at hwhole
      exact b.run_forget_takeIn hwhole
  | yields items fault =>
    obtain rfl : fault = none := hfault
    have htaken := b.run_forget_takeIn hwhole
    have hanalyze : analyze room (.yields items none) =
        forget >>= fun _ => takeIn room .empty items := by
      simp [analyze]
    rw [hanalyze]
    exact htaken

end Analysis

section Loads

variable {p : Provider} {room : Nat} (b : Bench)

theorem run_reload_of_failure {f : Fault} (h : p.failure? room = some f) :
    ∃ a, (reload room p).run b = .error f ⟨b.session, a⟩ := by
  obtain ⟨a, ha⟩ := b.run_analyze_of_failure h
  exact ⟨a, by simp [reload, ha]⟩

theorem run_reload (h : p.failure? room = none) :
    let batch := (Batch.ofItems room p.items).1
    (reload room p).run b = .ok batch.scripts
      ⟨{ b.session with scripts := batch.scripts }, ⟨batch.warnings⟩⟩ := by
  rw [reload, EStateM.run_bind, b.run_analyze h]
  rfl

variable (now : Binary64)

/-- Told one by one, the effects of a start are those that it has at one go. -/
theorem run_begin :
    (begin now).run b = .ok true { b with session := (b.session.begin now).value } := by
  simp only [begin, onSession, EStateM.run_bind, EStateM.run_modify, EStateM.run_pure,
    Session.begin]
  cases b.session.settings.loadAware.truthy <;> rfl

theorem run_start_of_active (room : Nat) (p : Provider) (now : Binary64)
    (hactive : b.session.active = true) :
    (start room p now).run b = .ok false b := by
  simp [start, hactive]

theorem run_start_of_failure {f : Fault} (hidle : b.session.active = false)
    (h : p.failure? room = some f) :
    ∃ a, (start room p now).run b = .error f ⟨b.session, a⟩ := by
  obtain ⟨a, ha⟩ := b.run_reload_of_failure h
  exact ⟨a, by simp [start, hidle, ha]⟩

theorem run_start (hidle : b.session.active = false) (h : p.failure? room = none) :
    let batch := (Batch.ofItems room p.items).1
    (start room p now).run b = .ok true
      ⟨(Session.begin { b.session with scripts := batch.scripts } now).value,
        ⟨batch.warnings⟩⟩ := by
  simp [start, hidle, b.run_reload h, run_begin]

end Loads

end Bench

namespace Session

section Loads

variable {p : Provider} {room : Nat} (s : Session) (log : List LogEntry) (now : Binary64)

theorem reload_of_failure {f : Fault} (h : p.failure? room = some f) :
    (s.reload (p.feed room log)).result = .error f ∧ (s.reload (p.feed room log)).state = s := by
  unfold Provider.failure? at h
  unfold reload Provider.feed
  dsimp only
  rcases hbatch : Batch.ofItems room p.items with ⟨batch, broken⟩
  rw [hbatch] at h
  cases broken with
  | some g =>
    obtain rfl := Option.some.inj h
    exact ⟨rfl, rfl⟩
  | none =>
    have hfault : p.fault? = some f := h
    rw [hfault]
    exact ⟨rfl, rfl⟩

theorem reload_of_items (h : p.failure? room = none) :
    let scripts := (Batch.ofItems room p.items).1.scripts
    (s.reload (p.feed room log)).result = .ok scripts ∧
      (s.reload (p.feed room log)).state = { s with scripts := scripts } := by
  obtain ⟨hwhole, hfault⟩ := Option.or_eq_none_iff.mp h
  unfold reload Provider.feed
  dsimp only
  rcases hbatch : Batch.ofItems room p.items with ⟨batch, broken⟩
  rw [hbatch] at hwhole
  obtain rfl : broken = none := hwhole
  rw [hfault]
  exact ⟨rfl, rfl⟩

theorem start_of_failure {f : Fault} (hidle : s.active = false) (h : p.failure? room = some f) :
    (s.start (p.feed room log) now).result = .error f ∧
      (s.start (p.feed room log) now).state = s := by
  obtain ⟨hresult, hstate⟩ := s.reload_of_failure log h
  simp [start, hidle, hresult, hstate]

theorem start_of_items (hidle : s.active = false) (h : p.failure? room = none) :
    let scripts := (Batch.ofItems room p.items).1.scripts
    (s.start (p.feed room log) now).result = .ok true ∧
      (s.start (p.feed room log) now).state = (begin { s with scripts := scripts } now).value := by
  obtain ⟨hresult, hstate⟩ := s.reload_of_items log h
  simp [start, hidle, hresult, hstate]

end Loads

end Session

/-- A load that a host asks for, with the room that it has for its items. -/
inductive Load where
  | reload (room : Nat) (p : Provider)
  | start (room : Nat) (p : Provider) (now : Binary64)

namespace Load

def provider : Load → Provider
  | .reload _ p | .start _ p _ => p

def room : Load → Nat
  | .reload room _ | .start room _ _ => room

/-- What the load fails with, if its provider is asked. -/
def failure? (l : Load) : Option Fault := l.provider.failure? l.room

/-- What the host is told, and what it works with afterwards. -/
def told {α : Type} (tell : α → Session.Answer) :
    EStateM.Result Fault Bench α → Except Fault Session.Answer × Bench
  | .ok x b => (.ok (tell x), b)
  | .error f b => (.error f, b)

/-- A load effect by effect. -/
def carryOut (b : Bench) : Load → Except Fault Session.Answer × Bench
  | .reload room p => told .scripts ((Bench.reload room p).run b)
  | .start room p now => told .flag ((Bench.start room p now).run b)

/-- The load as a step of the session. -/
def step (log : List LogEntry) : Load → Session.Step
  | .reload room p => .reload (p.feed room log)
  | .start room p now => .start (p.feed room log) now

/-- Whether the provider is asked: a running session refuses to start. -/
def asks (s : Session) : Load → Bool
  | .reload .. => true
  | .start .. => !s.active

section Outcomes

variable {l : Load} (b : Bench)

theorem carryOut_of_failure {f : Fault} (hasks : l.asks b.session = true)
    (h : l.failure? = some f) : ∃ a, l.carryOut b = (.error f, ⟨b.session, a⟩) := by
  cases l with
  | reload room p =>
    obtain ⟨a, ha⟩ := b.run_reload_of_failure h
    exact ⟨a, congrArg (told .scripts) ha⟩
  | start room p now =>
    have hidle : b.session.active = false := by simpa [asks] using hasks
    obtain ⟨a, ha⟩ := b.run_start_of_failure now hidle h
    exact ⟨a, congrArg (told .flag) ha⟩

theorem step_of_failure (s : Session) {f : Fault} (log : List LogEntry) (hasks : l.asks s = true)
    (h : l.failure? = some f) :
    s.stepAnswer (l.step log) = .error f ∧ s.perform (l.step log) = s := by
  cases l with
  | reload room p =>
    obtain ⟨hresult, hstate⟩ := s.reload_of_failure log h
    exact ⟨congrArg (Except.map Session.Answer.scripts) hresult, hstate⟩
  | start room p now =>
    have hidle : s.active = false := by simpa [asks] using hasks
    obtain ⟨hresult, hstate⟩ := s.start_of_failure log now hidle h
    exact ⟨congrArg (Except.map Session.Answer.flag) hresult, hstate⟩

theorem isOk_step (s : Session) (log : List LogEntry) (hasks : l.asks s = true)
    (h : l.failure? = none) : (s.stepAnswer (l.step log)).isOk = true := by
  cases l with
  | reload room p =>
    have hfailure : p.failure? room = none := h
    obtain ⟨hresult, -⟩ := s.reload_of_items log hfailure
    rw [step, Session.stepAnswer, isOk_map, hresult]
    rfl
  | start room p now =>
    have hidle : s.active = false := by simpa [asks] using hasks
    have hfailure : p.failure? room = none := h
    obtain ⟨hresult, -⟩ := s.start_of_items log now hidle hfailure
    rw [step, Session.stepAnswer, isOk_map, hresult]
    rfl

theorem carryOut_of_items (log : List LogEntry) (hasks : l.asks b.session = true)
    (h : l.failure? = none) : l.carryOut b = (b.session.stepAnswer (l.step log),
      ⟨b.session.perform (l.step log), ⟨(Batch.ofItems l.room l.provider.items).1.warnings⟩⟩) := by
  cases l with
  | reload room p =>
    have hfailure : p.failure? room = none := h
    obtain ⟨hresult, hstate⟩ := b.session.reload_of_items log hfailure
    have hcarried := congrArg (told .scripts) (b.run_reload hfailure)
    rw [carryOut, step, Session.stepAnswer, Session.perform, hresult, hstate]
    exact hcarried
  | start room p now =>
    have hidle : b.session.active = false := by simpa [asks] using hasks
    have hfailure : p.failure? room = none := h
    obtain ⟨hresult, hstate⟩ := b.session.start_of_items log now hidle hfailure
    have hcarried := congrArg (told .flag) (b.run_start now hidle hfailure)
    rw [carryOut, step, Session.stepAnswer, Session.perform, hresult, hstate]
    exact hcarried

theorem carryOut_of_refused (log : List LogEntry) (h : l.asks b.session = false) :
    l.carryOut b = (b.session.stepAnswer (l.step log), b) ∧
      b.session.perform (l.step log) = b.session := by
  cases l with
  | reload room p => cases h
  | start room p now =>
    have hactive : b.session.active = true := by simpa [asks] using h
    have hstart : b.session.start (p.feed room log) now = ⟨.ok false, b.session, []⟩ :=
      if_pos hactive
    have hcarried := congrArg (told .flag) (b.run_start_of_active room p now hactive)
    rw [carryOut, step, Session.stepAnswer, Session.perform, hstart]
    exact ⟨hcarried, rfl⟩

/-- Effect by effect, a load comes to the step of the session. -/
theorem carryOut_eq (l : Load) (b : Bench) (log : List LogEntry) :
    ∃ a, l.carryOut b =
      (b.session.stepAnswer (l.step log), ⟨b.session.perform (l.step log), a⟩) := by
  cases hasks : l.asks b.session with
  | false =>
    obtain ⟨hcarried, hstate⟩ := carryOut_of_refused b log hasks
    exact ⟨b.analyzer, by rw [hcarried, hstate]⟩
  | true =>
    cases hfault : l.failure? with
    | none => exact ⟨_, carryOut_of_items b log hasks hfault⟩
    | some f =>
      obtain ⟨a, hcarried⟩ := carryOut_of_failure b hasks hfault
      obtain ⟨hanswer, hstate⟩ := step_of_failure b.session log hasks hfault
      exact ⟨a, by rw [hcarried, hanswer, hstate]⟩

end Outcomes

end Load

namespace Bench

section Histories

/-- What a host does next: it asks for a load, or does anything else with the session. -/
def pass (b : Bench) : Load ⊕ Session.Deed → Except Fault Session.Answer × Bench
  | .inl l => l.carryOut b
  | .inr d => (b.session.answer d, { b with session := b.session.deed d })

/-- Whether it asks for a load that fails. -/
def inVain : Load ⊕ Session.Deed → Bool
  | .inl l => l.failure?.isSome
  | .inr _ => false

def after (b : Bench) (calls : List (Load ⊕ Session.Deed)) : Bench :=
  calls.foldl (fun b c => (b.pass c).2) b

/-- What the host is told in turn, but for the loads that fail. -/
def answers (b : Bench) : List (Load ⊕ Session.Deed) → List (Except Fault Session.Answer)
  | [] => []
  | c :: calls => (if inVain c then [] else [(b.pass c).1]) ++ (b.pass c).2.answers calls

variable {b b' : Bench} {c : Load ⊕ Session.Deed}

theorem pass_congr (h : b.session = b'.session) :
    (b.pass c).1 = (b'.pass c).1 ∧ (b.pass c).2.session = (b'.pass c).2.session := by
  cases c with
  | inl l =>
    obtain ⟨a, hcarried⟩ := l.carryOut_eq b []
    obtain ⟨a', hcarried'⟩ := l.carryOut_eq b' []
    rw [pass, pass, hcarried, hcarried', h]
    exact ⟨rfl, rfl⟩
  | inr d =>
    rw [pass, pass, h]
    exact ⟨rfl, rfl⟩

theorem session_pass_of_inVain (h : inVain c = true) : (b.pass c).2.session = b.session := by
  cases c with
  | inl l =>
    obtain ⟨f, hfault⟩ := Option.isSome_iff_exists.mp h
    rw [pass]
    cases hasks : l.asks b.session with
    | false =>
      obtain ⟨hcarried, -⟩ := Load.carryOut_of_refused b [] hasks
      rw [hcarried]
    | true =>
      obtain ⟨a, hcarried⟩ := Load.carryOut_of_failure b hasks hfault
      rw [hcarried]
  | inr d => cases h

/-- Loads that fail leave no trace in the session. -/
theorem answers_congr (h : b.session = b'.session) (calls : List (Load ⊕ Session.Deed)) :
    b.answers calls = b'.answers (calls.filter fun c => !inVain c) ∧
      (b.after calls).session = (b'.after (calls.filter fun c => !inVain c)).session := by
  induction calls generalizing b b' with
  | nil => exact ⟨rfl, h⟩
  | cons c calls ih =>
    cases hvain : inVain c with
    | true =>
      obtain ⟨hanswers, hafter⟩ := ih ((session_pass_of_inVain hvain).trans h)
      rw [List.filter_cons_of_neg (by simp [hvain]), answers, if_pos hvain]
      exact ⟨hanswers, hafter⟩
    | false =>
      obtain ⟨hanswer, hsession⟩ := pass_congr (c := c) h
      obtain ⟨hanswers, hafter⟩ := ih hsession
      rw [List.filter_cons_of_pos (by simp [hvain]), answers, answers, hanswer, hanswers]
      exact ⟨rfl, hafter⟩

/-- A load fails if its provider does, and with the same fault unless an item is too deep. Then the
session is what it was, whatever its state and however many items have been read: at most the
analyzer has other warnings, and these make no difference to a later load that does not fail. So
all that a host does comes to the same as if the loads that fail had not been asked for. -/
theorem failed_load_unseen (b : Bench) :
    (∀ l : Load, (l.provider.fault?.isSome → l.failure?.isSome) ∧
      ((∀ item ∈ l.provider.items, ScriptInfo.Shallow l.room item) →
        l.failure? = l.provider.fault?)) ∧
    (∀ (l : Load) (f : Fault), l.failure? = some f → l.asks b.session = true →
      (∃ a, l.carryOut b = (.error f, ⟨b.session, a⟩)) ∧
      ∀ log, b.session.stepAnswer (l.step log) = .error f ∧
        b.session.perform (l.step log) = b.session) ∧
    (∀ l : Load, l.failure? = none → l.asks b.session = true →
      (l.carryOut b).1.isOk = true ∧ ∀ a, l.carryOut ⟨b.session, a⟩ = l.carryOut b) ∧
    ∀ calls, b.answers calls = b.answers (calls.filter fun c => !inVain c) ∧
      (b.after calls).session = (b.after (calls.filter fun c => !inVain c)).session := by
  refine ⟨fun l => ⟨Provider.isSome_failure?, Provider.failure?_eq⟩, ?_, ?_, answers_congr rfl⟩
  · intro l f hfailure hasks
    exact ⟨Load.carryOut_of_failure b hasks hfailure,
      fun log => Load.step_of_failure b.session log hasks hfailure⟩
  · intro l hfailure hasks
    refine ⟨?_, fun a => ?_⟩
    · rw [Load.carryOut_of_items b [] hasks hfailure]
      exact Load.isOk_step b.session [] hasks hfailure
    · rw [Load.carryOut_of_items b [] hasks hfailure,
        Load.carryOut_of_items ⟨_, a⟩ [] hasks hfailure]

/-- A session that has been started, has seen an execution, and has been stopped. -/
def usedSession : Session :=
  let now : Binary64 := .zero false
  Session.shortSession.run [.start ⟨[], none, [], 0⟩ now,
    .record (.span ⟨"shop.sk", 1, "event"⟩ (.int 5000000) "on join"), .stop now]

/-- Items have been read, some of them with warnings, when the provider fails. -/
theorem failed_load_unseen_halfRead :
    let broken : Load :=
      .start 4 (.yields Analyzer.mixedItems (some (.host "disk error"))) (.zero true)
    let working : Load := .start 4 (.gives (.list Analyzer.scriptItems)) (.zero false)
    usedSession.aggregator.recordCount = 1 ∧ broken.asks usedSession = true ∧
    ∃ a, broken.carryOut ⟨usedSession, .fresh⟩ = (.error (.host "disk error"), ⟨usedSession, a⟩) ∧
      (working.carryOut ⟨usedSession, a⟩).1.isOk = true ∧
      working.carryOut ⟨usedSession, a⟩ = working.carryOut ⟨usedSession, .fresh⟩ := by
  intro broken working
  have hrecords : usedSession.aggregator.recordCount = 1 := by decide +kernel
  have hasks : broken.asks usedSession = true := by decide +kernel
  have hmixed : ∀ item ∈ broken.provider.items, ScriptInfo.Shallow broken.room item :=
    ScriptInfo.shallow_of_nesting (by decide +kernel)
  have hscripts : ∀ item ∈ working.provider.items, ScriptInfo.Shallow working.room item :=
    ScriptInfo.shallow_of_nesting (by decide +kernel)
  obtain ⟨hfailure, hfails, hworks, -⟩ := failed_load_unseen ⟨usedSession, .fresh⟩
  obtain ⟨⟨a, hcarried⟩, -⟩ :=
    hfails broken (.host "disk error") ((hfailure broken).2 hmixed) hasks
  obtain ⟨hok, hsame⟩ := hworks working ((hfailure working).2 hscripts) hasks
  refine ⟨hrecords, hasks, a, hcarried, ?_, hsame a⟩
  rw [hsame a]
  exact hok

end Histories

end Bench
end ScriptProfiling
