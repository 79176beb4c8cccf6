import ScriptProfiling.Fault
import ScriptProfiling.Number.Order

/-!
# Numbers

Measurements and limits are whole numbers or floating-point numbers, and a limit may
be written as a flag that counts as zero or one. Comparisons are exact; division and
conversion round once and fail when the result is too large.
-/
namespace ScriptProfiling

/-- The floating-point number nearest to a whole number, if one is near. -/
def wholeToFloat (n : Int) : Except Fault Binary64 :=
  let x := Binary64.ofIntNearest n
  if x.isFinite then .ok x else .error .wholeTooLarge

/-- The quotient of two whole numbers, rounded once. A zero takes the sign that the
divisor gives it. -/
def quotient (n d : Int) : Except Fault Binary64 :=
  let x := Binary64.nearest (decide (n < 0) != decide (d < 0)) n.natAbs d.natAbs
  if x.isFinite then .ok x else .error .quotientTooLarge

/-- The whole number that is left when the fraction is cut off. -/
def Binary64.truncate : Binary64 → Except Fault Int
  | .nan => .error .notANumber
  | .infinite _ => .error .infiniteWhole
  | .finite s m e _ => .ok (Binary64.signed s (raise m e / raise 1 (-e)))

/-- The numeral of a whole number that has no more digits than the limit. -/
def wholeTextLimited (n : Int) : Except Fault String :=
  if (numeral n.natAbs).length ≤ digitLimit then .ok (wholeText n) else .error .numberTooLong

inductive Number where
  | int (n : Int)
  | float (x : Binary64)
  | flag (b : Bool)
  deriving DecidableEq

namespace Number

instance : Inhabited Number := ⟨.int 0⟩

def flagValue (b : Bool) : Int := if b then 1 else 0

/-- The whole number that a number is by its kind. -/
def whole? : Number → Option Int
  | .int n => some n
  | .flag b => some (flagValue b)
  | .float _ => none

def scaled : Number → Scaled
  | .int n => .ofInt n
  | .float x => .ofBinary64 x
  | .flag b => .ofInt (flagValue b)

def lt (x y : Number) : Bool := x.scaled.lt y.scaled
def gt (x y : Number) : Bool := x.scaled.gt y.scaled
def le (x y : Number) : Bool := x.scaled.le y.scaled
def ge (x y : Number) : Bool := x.scaled.ge y.scaled

def toFloat : Number → Except Fault Binary64
  | .int n => wholeToFloat n
  | .flag b => wholeToFloat (flagValue b)
  | .float x => .ok x

/-- Whole numbers add exactly; any other sum is one of floating-point numbers. -/
def add (x y : Number) : Except Fault Number :=
  match x.whole?, y.whole? with
  | some m, some n => .ok (.int (m + n))
  | _, _ => do return .float ((← x.toFloat) + (← y.toFloat))

/-- Whole numbers divide exactly before the one rounding. -/
def divide (x : Number) (d : Int) : Except Fault Binary64 :=
  match x.whole? with
  | some n => quotient n d
  | none => do return (← x.toFloat).div (← wholeToFloat d)

/-- The text with two decimal places. -/
def hundredths (x : Number) : Except Fault String := do return (← x.toFloat).fixedText 2

/-- The number rounded to three decimal places; whole numbers are so already. -/
def thousandths : Number → Number
  | .int n => .int n
  | .flag b => .int (flagValue b)
  | .float x => .float (x.roundPlaces 3)

def toValue : Number → Value
  | .int n => .int n
  | .float x => .float x
  | .flag b => .bool b

end Number

/-- The number that a value is. -/
def Value.number? : Value → Option Number
  | .int n => some (.int n)
  | .float x => some (.float x)
  | .bool b => some (.flag b)
  | _ => none

@[simp] theorem Number.number?_toValue (x : Number) : x.toValue.number? = some x := by
  cases x <;> rfl

end ScriptProfiling
