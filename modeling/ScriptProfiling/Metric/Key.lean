import ScriptProfiling.Number.Basic

/-!
# Metric keys

A script element is known by its file, its line and its kind. Keys are ordered by
these three in turn, texts by code points.
-/
namespace ScriptProfiling

structure MetricKey where
  file : String
  line : Int
  kind : String
  deriving DecidableEq, Repr, Inhabited

namespace MetricKey

/-- A place in a file, unless the number of the line is too long to be written. -/
def locationText (file : String) (line : Int) : Except Fault String := do
  return file ++ ":" ++ (← wholeTextLimited line)

def location (k : MetricKey) : Except Fault String := locationText k.file k.line

def le (a b : MetricKey) : Bool :=
  if a.file ≠ b.file then decide (a.file < b.file)
  else if a.line ≠ b.line then decide (a.line < b.line)
  else a.kind == b.kind || decide (a.kind < b.kind)

def sort (keys : List MetricKey) : List MetricKey := keys.mergeSort le

end MetricKey
end ScriptProfiling
