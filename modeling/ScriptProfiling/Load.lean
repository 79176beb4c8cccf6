import ScriptProfiling.Number.Basic

/-!
# Host load

A load sample is the number of ticks that the host manages in a second. Hosts hand
over all kinds of values for it.
-/
namespace ScriptProfiling

/-- The number that a load sample must be. -/
def realNumber (v : Value) : Except Fault Number :=
  match v.number? with
  | some x => .ok x
  | none => .error (.realNumber v.typeName)

def isUsableFloat (x : Binary64) : Bool := x.isFinite && (Scaled.ofBinary64 x).ge (.ofInt 0)

/-- The load, if the sample is finite and not negative. -/
def usableLoad? (v : Value) : Except Fault (Option Number) :=
  match v with
  | .null => .ok none
  | v => do
    let x ← realNumber v
    let y ← x.toFloat
    return if y.isFinite && x.ge (.int 0) then some x else none

def isUsableLoad (v : Value) : Except Fault Bool := (usableLoad? v).map Option.isSome

end ScriptProfiling
