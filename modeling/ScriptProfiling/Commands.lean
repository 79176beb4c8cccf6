import ScriptProfiling.Markup.Plain
import ScriptProfiling.Session

/-!
# Commands

A front-end splits what the user types into arguments and prints the lines of markup
that come back. Command words count in any case.
-/
namespace ScriptProfiling
namespace Commands

inductive Subcommand where
  | start
  | stop
  | report
  | reset
  | status
  | help
  deriving DecidableEq, Repr

def Subcommand.name : Subcommand → String
  | .start => "start"
  | .stop => "stop"
  | .report => "report"
  | .reset => "reset"
  | .status => "status"
  | .help => "help"

def subcommands : List Subcommand := [.start, .stop, .report, .reset, .status, .help]

def reportOptions : List String := ["detailed"]

/-- A word in lower case; what is no text has no case. -/
def lowerWord : Value → Except Fault String
  | .text s => .ok (lowercaseText s)
  | v => .error (.noAttribute v.typeName "lower")

def yellow (text : String) : String := Report.styled "yellow" text
def green (text : String) : String := Report.styled "green" text
def red (text : String) : String := Report.styled "red" text
def grey (text : String) : String := Report.styled "grey50" text
def gold (text : String) : String := Report.styled "gold1" text
def cyan (text : String) : String := Report.styled "cyan" text

def usages : List (String × String) :=
  [("start", "Start profiling"), ("stop", "Stop profiling"),
   ("report \\[detailed]", "Generate report"), ("reset", "Reset profiling data"),
   ("status", "Show profiler status"), ("help", "Show this help")]

def help (name : String) : List String :=
  gold "=== Skript Profiler Commands ===" ::
    usages.map fun u => yellow ("/" ++ name ++ " " ++ u.1) ++ grey (" - " ++ u.2)

def useReport (name : String) : String := "Use '/" ++ name ++ " report' to view results."

def start (s : Session) (name : String) (feed : Feed) (now : Binary64) :
    Outcome Session (List String) :=
  if s.active then ⟨.ok [yellow "Profiler is already running!"], s, []⟩
  else
    let started := s.start feed now
    ⟨started.result.map fun begun =>
        if begun then [green ("Profiling started! " ++ useReport name),
          grey "The profiler is now tracking script execution..."]
        else [red "Failed to start profiling."],
      started.state, started.log⟩

def stop (s : Session) (name : String) (now : Binary64) : Outcome Session (List String) :=
  if !s.active then ⟨.ok [yellow "Profiler is not running!"], s, []⟩
  else
    let stopped := s.stop now
    ⟨stopped.result.map fun ended =>
        if ended then [green ("Profiling stopped! " ++ useReport name)]
        else [red "Failed to stop profiling."],
      stopped.state, stopped.log⟩

def logLine (text : String) : LogEntry := ⟨.info, .commands, text⟩

/-- Logs lines as plain text, one by one, up to the first that is no valid markup. -/
def logLines : List String → List LogEntry × Option Fault
  | [] => ([], none)
  | line :: lines =>
    match stripMarkup line with
    | .error f => ([], some f)
    | .ok text =>
      let (rest, fault) := logLines lines
      (logLine text :: rest, fault)

def generating : String := grey "Generating performance report..."

/-- A report goes to the one who asked, to the log, or to both. -/
def report (s : Session) (now : Binary64) (detailed : Bool) : Outcome Session (List String) :=
  let reported := s.report now detailed
  match reported.result with
  | .error f => ⟨.error f, reported.state, reported.log⟩
  | .ok text =>
    let lines := splitLines text
    let format := s.settings.reportFormat
    let (logged, fault) := if format.logged then
        let (entries, fault) := logLines lines
        (logLine "=== Performance Report ===" :: entries, fault)
      else ([], none)
    let reply :=
      if format = .console then [generating, green "Report generated and logged to console!"]
      else generating :: lines
    ⟨match fault with
      | some f => .error f
      | none => .ok reply,
      reported.state, reported.log ++ logged⟩

def reset (s : Session) : Outcome Session (List String) :=
  let done := s.reset
  ⟨.ok [if done.value.1 then green "Profiling data reset!"
      else yellow "Stop profiling before resetting!"], done.value.2, done.log⟩

def statusLines (name : String) (status : SessionStatus) : Except Fault (List String) := do
  let load ← (← realNumber status.load).hundredths
  let state := if status.active then green "RUNNING" else red "STOPPED"
  let hint := if status.active then "stop" else "start"
  let purpose := if status.active then "to stop profiling" else "to begin profiling"
  return [gold "=== Profiler Status ===",
    cyan "Status:" ++ " " ++ state,
    cyan "Current TPS:" ++ " " ++ load,
    cyan "Scripts Loaded:" ++ " " ++ wholeText status.scripts,
    cyan "Elements Tracked:" ++ " " ++ wholeText status.records,
    grey ("Use '/" ++ name ++ " " ++ hint ++ "' " ++ purpose)]

def isDetailed (args : List Value) : Except Fault Bool :=
  match args with
  | option :: _ => (lowerWord option).map (· == "detailed")
  | [] => .ok false

/-- Runs the command that the arguments give and answers with lines of markup. -/
def handle (s : Session) (name : String) (feed : Feed) (now : Binary64) (args : List Value) :
    Outcome Session (List String) :=
  match args with
  | [] => ⟨.ok (help name), s, []⟩
  | first :: options =>
    match lowerWord first with
    | .error f => ⟨.error f, s, []⟩
    | .ok word =>
      match subcommands.find? (·.name == word) with
      | some .start => start s name feed now
      | some .stop => stop s name now
      | some .report =>
        match isDetailed options with
        | .error f => ⟨.error f, s, []⟩
        | .ok detailed => report s now detailed
      | some .reset => reset s
      | some .status => ⟨statusLines name (s.status now), s, []⟩
      | some .help => ⟨.ok (help name), s, []⟩
      | none =>
        ⟨.ok [red ("Unknown subcommand. Use '/" ++ name ++ " help' for help.")], s, []⟩

def startingWith (word : String) (candidates : List String) : List String :=
  candidates.filter fun c => word.toList.isPrefixOf c.toList

/-- How the last of some arguments may go on. -/
def complete (args : List Value) : Except Fault (List String) :=
  match args with
  | [word] => do return startingWith (← lowerWord word) (subcommands.map Subcommand.name)
  | [command, option] => do
    if (← lowerWord command) = "report" then return startingWith (← lowerWord option) reportOptions
    else return []
  | _ => .ok []

end Commands
end ScriptProfiling
