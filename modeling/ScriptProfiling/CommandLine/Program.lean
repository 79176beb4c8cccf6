import ScriptProfiling.CommandLine.Replay
import ScriptProfiling.CommandLine.Scan

/-!
# The program

The first argument names what to do. Log handlers are set up once the arguments have
been read, and the log file gets every entry of the run.
-/
namespace ScriptProfiling
namespace CommandLine

inductive Request where
  | scan (r : ScanRequest)
  | replay (r : ReplayRequest)

namespace Request

def logging : Request → LogRequest
  | .scan r => r.logging
  | .replay r => r.logging

def named (w : Surroundings) : List String → Run Request
  | [] => Run.ending (.usage .noCommand)
  | "scan" :: arguments => return .scan (← Scan.request w arguments)
  | "report" :: arguments => return .replay (← Replay.request w arguments)
  | name :: _ => Run.ending (.usage (.unknownCommand name))

/-- What the arguments ask for. There are no options in front of the command. -/
def read (w : Surroundings) : List String → Run Request
  | "--" :: arguments => named w arguments
  | argument :: arguments =>
    if isOption argument then Run.ending (.usage (.unknownOption argument))
    else named w (argument :: arguments)
  | [] => named w []

/-- The options of a command, and those of them that name files. -/
def options : String → List OptionSpec × List String
  | "scan" => (Scan.options, ["config"])
  | "report" => (Replay.options, ["trace", "config", "log_file"])
  | _ => ([], [])

/-- The paths that the arguments name, as they are written. -/
def paths (arguments : List String) : List String :=
  match arguments.filter (· != "--") with
  | [] => []
  | name :: rest =>
    match readArguments (options name).1 none rest with
    | .ok given => given.others ++ (options name).2.filterMap given.value?
    | .error _ => []

def run (w : Surroundings) (journal : Journal) (times : SessionTimes) : Request → Run Unit
  | .scan r => CommandLine.scan w r
  | .replay r => CommandLine.replay w journal times r

end Request

/-- A run that has come to its end. -/
structure Conclusion where
  run : Run Unit
  /-- How urgent entries have to be for the console. -/
  consoleLevel : Level
  journal : Journal

/-- Sets up the log handlers and does what is asked for. -/
def carryOut (w : Surroundings) (stamp : String) (times : SessionTimes) (request : Request) :
    Conclusion :=
  let level := request.logging.consoleLevel
  match Logging.setUp w.cwd request.logging w.files .fresh with
  | (.error f, _) => ⟨Run.ending (.fault f), level, ⟨none, stamp⟩⟩
  | (.ok files, g) =>
    let journal : Journal := ⟨g.filePath?, stamp⟩
    ⟨request.run { w with files := files } journal times, level, journal⟩

/-- What a run with these arguments comes to. Log entries get the given time stamp. -/
def call (w : Surroundings) (stamp : String) (times : SessionTimes) (arguments : List String) :
    Conclusion :=
  let reading := Request.read w arguments
  match reading.result with
  | .error e => ⟨Run.ending e, .warning, ⟨none, stamp⟩⟩
  | .ok request => carryOut w stamp times request

namespace Conclusion

def output (c : Conclusion) : List String := c.run.output

/-- What the run adds to its log file. -/
def logText (c : Conclusion) : String := LogEntry.fileText c.journal.stamp c.run.log

def fault? (c : Conclusion) : Option Fault :=
  match c.run.result with
  | .error (.fault f) => some f
  | _ => none

end Conclusion
end CommandLine
end ScriptProfiling
