/-!
# Rounding a quotient

Every rounding of the project is one of these two: to the nearest whole number
with halves going to the even neighbour, or toward zero.
-/
namespace ScriptProfiling

/-- The whole number nearest to `n / d`; an exact half goes to the even neighbour. -/
def roundQuotient (n d : Nat) : Nat :=
  let q := n / d
  let r := n % d
  if 2 * r < d then q
  else if d < 2 * r then q + 1
  else if q % 2 = 0 then q else q + 1

/-- `n * 2 ^ k` for `0 ≤ k`, and `n` itself for a negative `k`. -/
def raise (n : Nat) (k : Int) : Nat := n * Nat.pow 2 k.toNat

/-- The decimal counterpart: `n * 10 ^ k` for `0 ≤ k`, and `n` itself for a negative `k`. -/
def raiseTen (n : Nat) (k : Int) : Nat := n * Nat.pow 10 k.toNat

theorem raise_pos {n : Nat} (h : 0 < n) (k : Int) : 0 < raise n k :=
  Nat.mul_pos h (Nat.pow_pos (by decide))

/-- The largest `k` with `2 ^ k ≤ n / d`, for positive `n` and `d`. -/
def binaryExponent (n d : Nat) : Int :=
  let k : Int := (n.log2 : Int) - (d.log2 : Int)
  if raise d k ≤ raise n (-k) then k else k - 1

/-- How many decimal digits `n` has; zero has one. -/
def decimalLength (n : Nat) : Nat := (Nat.toDigits 10 n).length

/-- The largest `k` with `10 ^ k ≤ n / d`, for positive `n` and `d`. -/
def decimalExponent (n d : Nat) : Int :=
  if d ≤ n then (decimalLength (n / d) : Int) - 1
  else -(decimalLength ((d - 1) / n) : Int)

end ScriptProfiling
