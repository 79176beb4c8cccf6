import ScriptProfiling.Log.Handlers
import ScriptProfiling.Proofs.Partial

/-!
# Setting up logging again and again

What the last setup has made and what the logger has attached are kept apart, and a setup that
cannot open its log file leaves the two out of step. All the same nothing is attached but what the
last setup has made, and the next one clears that away.
-/
namespace ScriptProfiling

/-- A call that sets up logging: its arguments, and the files as they are then. -/
structure LoggingCall where
  cwd : Path
  files : Tree
  arguments : List (String × Value)

namespace Logging

/-- One call. An argument that is not known stops it before it does anything. -/
def call (g : Logging) (c : LoggingCall) : Except Fault Tree × Logging :=
  match LogRequest.ofArguments c.arguments with
  | .error f => (.error f, g)
  | .ok r => setUp c.cwd r c.files g

def after (g : Logging) (calls : List LoggingCall) : Logging :=
  calls.foldl (fun g c => (g.call c).2) g

/-- What is attached has been made by the last setup, and all serial numbers have been given. -/
structure Tidy (g : Logging) : Prop where
  attached : ∀ h ∈ g.attached, h ∈ g.installed
  serial_lt : ∀ h ∈ g.installed, h.serial < g.made

/-- Handlers for a console, made next. -/
def nextConsole (g : Logging) (r : LogRequest) : Handler := ⟨g.made, .console, r.consoleLevel⟩

/-- The handler for a log file, made behind the one for the console. -/
def nextFile (g : Logging) (path : Path) : Handler := ⟨g.made + 1, .file path, .debug⟩

section Setup

variable (cwd : Path) (r : LogRequest) (files : Tree) (g : Logging)

theorem openFile_cases :
    (r.file.truthy = false ∧ openFile cwd r files = .ok (none, files)) ∨
    (r.file.truthy = true ∧ ∃ path opened, r.filePath cwd = .ok path ∧
      files.append path [] = .ok opened ∧ openFile cwd r files = .ok (some path, opened)) ∨
    (r.file.truthy = true ∧ (¬∃ path opened, r.filePath cwd = .ok path ∧
      files.append path [] = .ok opened) ∧ ∃ f, openFile cwd r files = .error f) := by
  unfold openFile
  cases htruthy : r.file.truthy with
  | false => exact Or.inl ⟨rfl, rfl⟩
  | true =>
    right
    cases hpath : r.filePath cwd with
    | error f =>
      refine Or.inr ⟨rfl, ?_, f, rfl⟩
      rintro ⟨path, opened, h, -⟩
      cases h
    | ok path =>
      cases happend : files.append path [] with
      | error f =>
        refine Or.inr ⟨rfl, ?_, r.tell f, ?_⟩
        · rintro ⟨path', opened, h, hopened⟩
          obtain rfl := Except.ok.inj h
          rw [happend] at hopened
          cases hopened
        · simp [happend, Except.mapError, bind, Except.bind]
      | ok opened =>
        refine Or.inl ⟨rfl, path, opened, rfl, happend, ?_⟩
        simp [happend, Except.mapError, bind, Except.bind, pure, Except.pure]

theorem setUp_cases :
    (r.file.truthy = false ∧ setUp cwd r files g =
      (.ok files, ⟨[g.nextConsole r], g.clear.attached ++ [g.nextConsole r], some r.consoleLevel,
        g.made + 1⟩)) ∨
    (r.file.truthy = true ∧ ∃ path opened, r.filePath cwd = .ok path ∧
      files.append path [] = .ok opened ∧ setUp cwd r files g =
        (.ok opened, ⟨[g.nextConsole r, g.nextFile path],
          g.clear.attached ++ [g.nextConsole r, g.nextFile path], some .debug, g.made + 2⟩)) ∨
    (r.file.truthy = true ∧ (¬∃ path opened, r.filePath cwd = .ok path ∧
      files.append path [] = .ok opened) ∧ ∃ f, setUp cwd r files g =
        (.error f, ⟨[g.nextConsole r], g.clear.attached, g.level, g.made + 1⟩)) := by
  rcases openFile_cases cwd r files with ⟨htruthy, hopen⟩ |
    ⟨htruthy, path, opened, hpath, happend, hopen⟩ | ⟨htruthy, hnone, f, hopen⟩
  · refine Or.inl ⟨htruthy, ?_⟩
    simp [setUp, hopen, attach, install, clear, nextConsole, LogRequest.loggerLevel, htruthy]
  · refine Or.inr (Or.inl ⟨htruthy, path, opened, hpath, happend, ?_⟩)
    simp [setUp, hopen, attach, install, clear, nextConsole, nextFile, LogRequest.loggerLevel,
      htruthy]
  · refine Or.inr (Or.inr ⟨htruthy, hnone, f, ?_⟩)
    simp [setUp, hopen, install, clear, nextConsole]

theorem isOk_setUp :
    (setUp cwd r files g).1.isOk = true ↔ (r.file.truthy = true →
      ∃ path opened, r.filePath cwd = .ok path ∧ files.append path [] = .ok opened) := by
  rcases setUp_cases cwd r files g with ⟨htruthy, hset⟩ |
    ⟨-, path, opened, hpath, happend, hset⟩ | ⟨htruthy, hnone, f, hset⟩
  · rw [hset, htruthy]
    exact iff_of_true rfl fun h => by cases h
  · rw [hset]
    exact iff_of_true rfl fun _ => ⟨path, opened, hpath, happend⟩
  · rw [hset]
    exact iff_of_false (fun h => by cases h) fun hopens => hnone (hopens htruthy)

end Setup

namespace Tidy

variable {g : Logging}

theorem fresh : Tidy fresh :=
  ⟨fun _ h => absurd h List.not_mem_nil, fun _ h => absurd h List.not_mem_nil⟩

theorem attached_clear (h : g.Tidy) : g.clear.attached = [] := by
  simp only [clear, List.filter_eq_nil_iff, Bool.not_eq_true', Bool.not_eq_false]
  intro handler hattached
  rw [List.any_eq_true]
  exact ⟨handler, h.attached handler hattached, beq_self_eq_true _⟩

theorem setUp (h : g.Tidy) (cwd : Path) (r : LogRequest) (files : Tree) :
    (Logging.setUp cwd r files g).2.Tidy := by
  have hconsole : (g.nextConsole r).serial < g.made + 1 := Nat.lt_succ_self _
  have hcleared := h.attached_clear
  rcases setUp_cases cwd r files g with ⟨-, hset⟩ | ⟨-, path, opened, -, -, hset⟩ | ⟨-, -, f, hset⟩
  · rw [hset, hcleared]
    exact ⟨fun _ hmem => hmem, List.forall_mem_singleton.mpr hconsole⟩
  · have hfile : (g.nextFile path).serial < g.made + 2 := Nat.lt_succ_self _
    rw [hset, hcleared]
    refine ⟨fun _ hmem => hmem, List.forall_mem_cons.mpr ⟨?_, List.forall_mem_singleton.mpr hfile⟩⟩
    exact Nat.lt_trans hconsole (Nat.lt_succ_self _)
  · rw [hset, hcleared]
    exact ⟨fun _ hmem => absurd hmem List.not_mem_nil, List.forall_mem_singleton.mpr hconsole⟩

/-- What a setup that returns has attached, where nothing is left of the one before. -/
theorem attached_setUp (h : g.Tidy) {cwd : Path} {r : LogRequest} {files : Tree}
    (hreturns : (Logging.setUp cwd r files g).1.isOk = true) :
    let done := (Logging.setUp cwd r files g).2
    (∃ logFile : Option Path, logFile.isSome = r.file.truthy ∧
      (∀ path ∈ logFile, r.filePath cwd = .ok path) ∧
      done.attached.map (fun h => (h.target, h.level)) =
        (.console, r.consoleLevel) :: (logFile.map fun path => (.file path, .debug)).toList) ∧
    done.level = some r.loggerLevel ∧ ∀ h ∈ done.attached, g.made ≤ h.serial := by
  intro done
  have hcleared := h.attached_clear
  have hconsole : g.made ≤ (g.nextConsole r).serial := Nat.le_refl _
  rcases setUp_cases cwd r files g with ⟨htruthy, hset⟩ | ⟨htruthy, path, opened, hpath, -, hset⟩ |
    ⟨-, -, f, hset⟩
  · have hdone : done =
        ⟨[g.nextConsole r], [g.nextConsole r], some r.consoleLevel, g.made + 1⟩ := by
      rw [hcleared] at hset
      exact congrArg Prod.snd hset
    rw [hdone]
    refine ⟨⟨none, htruthy.symm, fun _ h => absurd h (Option.not_mem_none _), rfl⟩, ?_,
      List.forall_mem_singleton.mpr hconsole⟩
    simp [LogRequest.loggerLevel, htruthy]
  · have hfile : g.made ≤ (g.nextFile path).serial := Nat.le_succ _
    have hdone : done = ⟨[g.nextConsole r, g.nextFile path], [g.nextConsole r, g.nextFile path],
        some .debug, g.made + 2⟩ := by
      rw [hcleared] at hset
      exact congrArg Prod.snd hset
    rw [hdone]
    refine ⟨⟨some path, htruthy.symm, ?_, rfl⟩, ?_,
      List.forall_mem_cons.mpr ⟨hconsole, List.forall_mem_singleton.mpr hfile⟩⟩
    · intro path' hmem
      obtain rfl := Option.some.inj hmem
      exact hpath
    · simp [LogRequest.loggerLevel, htruthy]
  · rw [hset] at hreturns
    cases hreturns

theorem call (h : g.Tidy) (c : LoggingCall) : (g.call c).2.Tidy := by
  unfold Logging.call
  split
  · exact h
  · exact h.setUp _ _ _

theorem after (h : g.Tidy) (calls : List LoggingCall) : (g.after calls).Tidy := by
  induction calls generalizing g with
  | nil => exact h
  | cons c calls ih => exact ih (h.call c)

end Tidy

section Calls

variable (g : Logging)

theorem after_append (calls later : List LoggingCall) :
    g.after (calls ++ later) = (g.after calls).after later := List.foldl_append

theorem made_le_call (c : LoggingCall) : g.made ≤ (g.call c).2.made := by
  unfold call
  split
  · exact Nat.le_refl _
  · next r _ =>
    rcases setUp_cases c.cwd r c.files g with ⟨-, hset⟩ | ⟨-, path, opened, -, -, hset⟩ |
      ⟨-, -, f, hset⟩
    all_goals
      rw [hset]
      exact Nat.le_add_right _ _

theorem made_le_after (calls : List LoggingCall) : g.made ≤ (g.after calls).made := by
  induction calls generalizing g with
  | nil => exact Nat.le_refl _
  | cons c calls ih => exact Nat.le_trans (g.made_le_call c) (ih _)

end Calls

/-- After any calls, also ones that have failed, a call returns exactly if it knows its arguments
and can open the log file, where it asks for one. Then the handlers of the logger are those of this
call: one for the console, of the level that its arguments choose, and behind it one of the lowest
level for the log file if there is one. The logger has the level of the console, or the lowest one
for a log file. No handler is one that an earlier call has made. -/
theorem handlers_of_last_call (before : List LoggingCall) (c : LoggingCall) :
    let g := fresh.after before
    let done := (g.call c).2
    ((g.call c).1.isOk = true ↔ ∃ r, LogRequest.ofArguments c.arguments = .ok r ∧
      (r.file.truthy = true → ∃ path opened, r.filePath c.cwd = .ok path ∧
        c.files.append path [] = .ok opened)) ∧
    ∀ r, LogRequest.ofArguments c.arguments = .ok r → (g.call c).1.isOk = true →
      let consoleLevel : Level := if r.quiet then .error else if r.verbose then .debug else .warning
      (∃ logFile : Option Path, logFile.isSome = r.file.truthy ∧
        (∀ path ∈ logFile, r.filePath c.cwd = .ok path) ∧
        done.attached.map (fun h => (h.target, h.level)) =
          (.console, consoleLevel) :: (logFile.map fun path => (.file path, .debug)).toList) ∧
      done.level = some (if r.file.truthy then .debug else consoleLevel) ∧
      ∀ h ∈ done.attached, ∀ earlier, earlier <+: before →
        ∀ old ∈ (fresh.after earlier).installed ++ (fresh.after earlier).attached,
          old.serial < h.serial := by
  intro g done
  have htidy : g.Tidy := Tidy.fresh.after before
  constructor
  · unfold call
    cases hr : LogRequest.ofArguments c.arguments with
    | error f => simp [Except.isOk, Except.toBool]
    | ok r =>
      rw [isOk_setUp]
      constructor
      · intro hopens
        exact ⟨r, rfl, hopens⟩
      · rintro ⟨r', h, hopens⟩
        obtain rfl := Except.ok.inj h
        exact hopens
  · intro r hr hreturns consoleLevel
    have hcall : g.call c = setUp c.cwd r c.files g := by rw [call, hr]
    have hdone : done = (setUp c.cwd r c.files g).2 := congrArg Prod.snd hcall
    rw [hcall] at hreturns
    obtain ⟨hattached, hlevel, hmade⟩ := htidy.attached_setUp hreturns
    rw [hdone]
    refine ⟨hattached, hlevel, fun h hh earlier hearlier old hold => ?_⟩
    obtain ⟨later, rfl⟩ := hearlier
    have hthen : (fresh.after earlier).Tidy := Tidy.fresh.after earlier
    have hinstalled : old ∈ (fresh.after earlier).installed := by
      rcases List.mem_append.mp hold with hold | hold
      · exact hold
      · exact hthen.attached old hold
    have hlater : (fresh.after earlier).made ≤ g.made := by
      rw [show g = (fresh.after earlier).after later from after_append _ _ _]
      exact made_le_after _ later
    exact Nat.lt_of_lt_of_le (hthen.serial_lt old hinstalled) (Nat.le_trans hlater (hmade h hh))

/-- Calls of which one writes a log file, one asks for a file in a folder that is not there, one
gives a number for the file, and one has an argument that is not known. -/
def troubledCalls : List LoggingCall :=
  [[("verbose", .bool true), ("log_file", .text "a.log")], [("log_file", .path "lost/a.log")],
    [("log_file", .int 5)], [("colour", .bool true)]].map
    (⟨⟨.single, ["work"]⟩, ⟨[(["work"], .folder)]⟩, ·⟩)

/-- Only the first of them returns. Behind them all, a quiet call has attached one handler, and one
with a log file two. -/
theorem handlers_of_last_call_troubled :
    let g := fresh.after troubledCalls
    let quiet : LoggingCall := ⟨⟨.single, ["work"]⟩, ⟨[(["work"], .folder)]⟩, [("quiet", .int 1)]⟩
    let kept : LoggingCall :=
      ⟨⟨.single, ["work"]⟩, ⟨[(["work"], .folder)]⟩, [("log_file", .text "b.log")]⟩
    troubledCalls.map (fun c => (g.call c).1.isOk) = [true, false, false, false] ∧
    (fresh.after (troubledCalls.take 1)).attached.length = 2 ∧ g.attached = [] ∧
    (g.call quiet).1.isOk = true ∧
    (g.call quiet).2.attached.map (fun h => (h.target, h.level)) = [(.console, .error)] ∧
    (g.call kept).2.attached.map (fun h => (h.target, h.level)) =
      [(.console, .warning), (.file ⟨.single, ["work", "b.log"]⟩, .debug)] := by
  intro g quiet kept
  obtain ⟨hreturns, hattached⟩ := handlers_of_last_call troubledCalls quiet
  have hquiet : (g.call quiet).1.isOk = true := hreturns.mpr ⟨_, rfl, Bool.noConfusion⟩
  obtain ⟨⟨logFile, hnone, -, hconsole⟩, -, -⟩ := hattached _ rfl hquiet
  obtain rfl := Option.isNone_iff_eq_none.mp (Option.isSome_eq_false_iff.mp hnone)
  obtain ⟨-, hfiles⟩ := handlers_of_last_call troubledCalls kept
  obtain ⟨⟨logFile, hsome, hpath, hboth⟩, -, -⟩ := hfiles _ rfl (by decide +kernel)
  obtain ⟨path, rfl⟩ := Option.isSome_iff_exists.mp hsome
  obtain rfl := Except.ok.inj (hpath path rfl)
  refine ⟨by decide +kernel, by decide +kernel, by decide +kernel, hquiet, hconsole, ?_⟩
  rw [hboth]
  decide +kernel

end Logging
end ScriptProfiling
