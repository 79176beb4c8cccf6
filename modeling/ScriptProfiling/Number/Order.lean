import ScriptProfiling.Number.Binary64

/-!
# Exact order of numbers

Whole numbers and floating-point numbers are compared as exact multiples of powers
of two, so no comparison rounds. Nothing compares with a value that is not a number.
-/
namespace ScriptProfiling

/-- One scale for both kinds of number. -/
inductive Scaled where
  | nan
  | infinite (negative : Bool)
  /-- The number `mantissa * 2 ^ exponent`. -/
  | exact (mantissa exponent : Int)
  deriving DecidableEq

namespace Scaled

def ofInt (n : Int) : Scaled := .exact n 0

def ofBinary64 : Binary64 → Scaled
  | .nan => .nan
  | .infinite s => .infinite s
  | .finite s m e _ => .exact (Binary64.signed s m) e

def compare? : Scaled → Scaled → Option Ordering
  | .nan, _ | _, .nan => none
  | .infinite s, .infinite t => some (if s = t then .eq else if s then .lt else .gt)
  | .infinite s, .exact .. => some (if s then .lt else .gt)
  | .exact .., .infinite t => some (if t then .gt else .lt)
  | .exact m e, .exact n f =>
    let low := min e f
    some (compare (m * raise 1 (e - low)) (n * raise 1 (f - low)))

def lt (x y : Scaled) : Bool := compare? x y == some .lt
def gt (x y : Scaled) : Bool := compare? x y == some .gt
def le (x y : Scaled) : Bool := lt x y || compare? x y == some .eq
def ge (x y : Scaled) : Bool := gt x y || compare? x y == some .eq

theorem compare?_ofInt (m n : Int) : compare? (ofInt m) (ofInt n) = some (compare m n) := by
  simp [compare?, ofInt, raise]

theorem lt_nan (x : Scaled) : lt x .nan = false := by cases x <;> rfl

end Scaled

namespace Binary64

def lt (x y : Binary64) : Bool := (Scaled.ofBinary64 x).lt (Scaled.ofBinary64 y)

/-- Between equal values, and against one that is not a number, the first is kept. -/
def max (x y : Binary64) : Binary64 := if x.lt y then y else x

end Binary64
end ScriptProfiling
