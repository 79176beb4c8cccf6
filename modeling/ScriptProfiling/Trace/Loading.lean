import ScriptProfiling.Files.Tree
import ScriptProfiling.Trace

/-!
# Loading traces

A trace file is read chunk by chunk, so lines before a chunk that is no text have
been read when the reading fails.
-/
namespace ScriptProfiling

def chunkSize : Nat := 8192

/-- The lines that are certainly complete: a carriage return at the end may still be
the first half of a line end. -/
def completeLines (cs : List Char) : List (List Char) :=
  if cs.getLast? = some '\n' then fileLines cs else (fileLines cs).dropLast

def TraceReading.ofBytes (bytes : List UInt8) : TraceReading :=
  match Utf8Stream.feedAll ⟨[], []⟩ (chunksOf chunkSize bytes.length bytes) with
  | (text, none) => .ofLines 1 (fileLines text)
  | (text, some e) => (TraceReading.ofLines 1 (completeLines text)).endingIn (.undecodable e)

def loadTrace (t : Tree) (cwd : Path) (path : String) : TraceReading :=
  match t.read cwd path with
  | .error f => ⟨[], [], some f⟩
  | .ok bytes => .ofBytes bytes

end ScriptProfiling
