import ScriptProfiling.Monitor
import ScriptProfiling.Script.Analysis

/-!
# Analyzers

An analyzer takes in one batch after the other. It keeps the warnings of the last one,
also of one that has ended early, and the scripts of a batch stand in the place of those
before.
-/
namespace ScriptProfiling

structure Analyzer where
  warnings : List String
  deriving DecidableEq, Repr

namespace Analyzer

def fresh : Analyzer := ⟨[]⟩

/-- Takes in a batch. Nothing of the one before it plays a part. -/
def analyze (_ : Analyzer) (room : Nat) (items : List Value) : Outcome Analyzer Scripts :=
  match Batch.ofItems room items with
  | (batch, some f) => ⟨.error f, ⟨batch.warnings⟩, batch.warningLog⟩
  | (batch, none) => ⟨.ok batch.scripts, ⟨batch.warnings⟩, batch.log⟩

/-- The analyzer after some batches, each with the room that it has had. -/
def after (a : Analyzer) (batches : List (Nat × List Value)) : Analyzer :=
  batches.foldl (fun a batch => (a.analyze batch.1 batch.2).state) a

end Analyzer
end ScriptProfiling
