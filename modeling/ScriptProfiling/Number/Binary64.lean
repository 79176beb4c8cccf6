import ScriptProfiling.Number.Rounding

/-!
# Binary floating-point numbers of 64 bits

A value is a whole multiple of a power of two, kept in the one form that the
format stores, so equal numbers other than the two zeros are equal terms.
Operations work on exact whole numbers and round once, to the nearest value with
ties to even.
-/
namespace ScriptProfiling

/-- The largest mantissa has 53 bits, all of them set; this is the number after it. -/
abbrev mantissaLimit : Nat := 0x20000000000000

/-- The least number of 53 bits. -/
abbrev leastFull : Nat := 0x10000000000000

/-- `m * 2 ^ e` has 53 bits unless `e` is the least exponent. -/
def Canonical (m : Nat) (e : Int) : Prop :=
  m < mantissaLimit ∧ -1074 ≤ e ∧ e ≤ 971 ∧ (leastFull ≤ m ∨ e = -1074)

instance (m : Nat) (e : Int) : Decidable (Canonical m e) :=
  inferInstanceAs (Decidable (_ ∧ _ ∧ _ ∧ _))

inductive Binary64 where
  | nan
  | infinite (negative : Bool)
  | finite (negative : Bool) (mantissa : Nat) (exponent : Int)
      (canonical : Canonical mantissa exponent)
  deriving DecidableEq

namespace Binary64

def zero (negative : Bool) : Binary64 := .finite negative 0 (-1074) (by decide)

instance : Inhabited Binary64 := ⟨zero false⟩

/-- A rounded mantissa may have grown up to the limit; above the largest exponent the
value is infinite. -/
def pack (negative : Bool) (m : Nat) (e : Int) : Binary64 :=
  if h : Canonical m e then .finite negative m e h
  else if h : m = mantissaLimit ∧ Canonical leastFull (e + 1) then
    .finite negative leastFull (e + 1) h.2
  else .infinite negative

/-- The value nearest to `n / d`, with the given sign. -/
def nearest (negative : Bool) (n d : Nat) : Binary64 :=
  if n = 0 then zero negative
  else
    let e := max (binaryExponent n d - 52) (-1074)
    pack negative (roundQuotient (raise n (-e)) (raise d e)) e

/-- The value nearest to `s * 2 ^ e`. -/
def ofScaled (s e : Int) : Binary64 :=
  nearest (decide (s < 0)) (raise s.natAbs e) (raise 1 (-e))

/-- The value nearest to a whole number; infinite when none is large enough. -/
def ofIntNearest (n : Int) : Binary64 := nearest (decide (n < 0)) n.natAbs 1

def isFinite : Binary64 → Bool
  | .finite .. => true
  | _ => false

def isZero : Binary64 → Bool
  | .finite _ m _ _ => m == 0
  | _ => false

/-- A mantissa with its sign. -/
def signed (negative : Bool) (m : Nat) : Int := if negative then -(m : Int) else m

def neg : Binary64 → Binary64
  | .nan => .nan
  | .infinite s => .infinite (!s)
  | .finite s m e h => .finite (!s) m e h

/-- Two zeros add up to a negative zero only when both are negative. -/
def add : Binary64 → Binary64 → Binary64
  | .nan, _ | _, .nan => .nan
  | .infinite s, .infinite t => if s = t then .infinite s else .nan
  | .infinite s, _ | _, .infinite s => .infinite s
  | .finite s m e _, .finite t n f _ =>
    let low := min e f
    let total := signed s (raise m (e - low)) + signed t (raise n (f - low))
    if total = 0 then zero (s && t) else ofScaled total low

def sub (x y : Binary64) : Binary64 := add x (neg y)

def mul : Binary64 → Binary64 → Binary64
  | .nan, _ | _, .nan => .nan
  | .infinite s, .infinite t => .infinite (s != t)
  | .infinite s, .finite t n _ _ | .finite t n _ _, .infinite s =>
    if n = 0 then .nan else .infinite (s != t)
  | .finite s m e _, .finite t n f _ =>
    nearest (s != t) (raise (m * n) (e + f)) (raise 1 (-(e + f)))

/-- The quotient by a positive whole number. -/
def divNat : Binary64 → Nat → Binary64
  | .nan, _ => .nan
  | .infinite s, _ => .infinite s
  | .finite s m e _, k => nearest s (raise m e) (raise k (-e))

def div : Binary64 → Binary64 → Binary64
  | .nan, _ | _, .nan => .nan
  | .infinite _, .infinite _ => .nan
  | .infinite s, .finite t _ _ _ => .infinite (s != t)
  | .finite s _ _ _, .infinite t => zero (s != t)
  | .finite s m e _, .finite t n f _ =>
    if n = 0 then (if m = 0 then .nan else .infinite (s != t))
    else nearest (s != t) (raise m (e - f)) (raise n (f - e))

/-- The value rounded to a number of decimal places, a tie going to the even
last place, and read back. -/
def roundPlaces (places : Nat) : Binary64 → Binary64
  | .finite s m e _ =>
    nearest s (roundQuotient (raiseTen (raise m e) places) (raise 1 (-e))) (raiseTen 1 places)
  | x => x

instance : Add Binary64 := ⟨add⟩
instance : Sub Binary64 := ⟨sub⟩
instance : Mul Binary64 := ⟨mul⟩
instance : Neg Binary64 := ⟨neg⟩

end Binary64
end ScriptProfiling
