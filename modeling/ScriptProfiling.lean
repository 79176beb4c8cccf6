import ScriptProfiling.Commands
import ScriptProfiling.Failure.Arguments
import ScriptProfiling.Main
import ScriptProfiling.Proofs.Aggregator.Snapshot
import ScriptProfiling.Proofs.Config.Precedence
import ScriptProfiling.Proofs.Detection.Arrival
import ScriptProfiling.Proofs.Script.Concatenation
import ScriptProfiling.Proofs.Session.Console
import ScriptProfiling.Proofs.Session.Persistence
import ScriptProfiling.Proofs.Trace.Replay
import ScriptProfiling.Proofs.Trace.Writing
import ScriptProfiling.Proofs.Config.Refusal
import ScriptProfiling.Proofs.Config.Bounds
import ScriptProfiling.Proofs.Script.Units
import ScriptProfiling.Proofs.Report.Marks
import ScriptProfiling.Proofs.Session.Agreement
import ScriptProfiling.Proofs.Session.Expiry
import ScriptProfiling.Proofs.Session.Blame
import ScriptProfiling.Proofs.Session.Observer
import ScriptProfiling.Proofs.Number.Shortest
import ScriptProfiling.Proofs.Json.Float
import ScriptProfiling.Proofs.Json.Block
import ScriptProfiling.Proofs.Aggregator.Refusal
import ScriptProfiling.Proofs.Aggregator.Parallel
import ScriptProfiling.Proofs.Aggregator.Lateness
import ScriptProfiling.Proofs.Monitor.Calls
import ScriptProfiling.Proofs.Script.Declared
import ScriptProfiling.Proofs.Script.Accesses
import ScriptProfiling.Proofs.Script.Consistency
import ScriptProfiling.Proofs.Detection.Relaxation
import ScriptProfiling.Proofs.Report.Ranking
import ScriptProfiling.Proofs.Aggregator.Timing
import ScriptProfiling.Proofs.Report.Breakdown
import ScriptProfiling.Proofs.Session.Atomicity
import ScriptProfiling.Proofs.Config.Announcement
import ScriptProfiling.Proofs.Log.Setup
import ScriptProfiling.Proofs.Metric.Extremes
import ScriptProfiling.Proofs.Script.Discovery
import ScriptProfiling.Proofs.Script.Numbering
import ScriptProfiling.Proofs.Report.Location
