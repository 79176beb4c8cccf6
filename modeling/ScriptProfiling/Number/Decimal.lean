import ScriptProfiling.Number.Binary64

/-!
# Decimal text of floating-point numbers

Two written forms: the fewest digits that read back as the same number, and a
fixed count of decimal places.
-/
namespace ScriptProfiling

/-- The number `digits * 10 ^ exponent`. -/
structure Decimal where
  digits : Nat
  exponent : Int
  deriving DecidableEq, Repr

namespace Decimal

/-- The nearest floating-point number. -/
def toBinary64 (d : Decimal) (negative : Bool) : Binary64 :=
  .nearest negative (raiseTen d.digits d.exponent) (raiseTen 1 (-d.exponent))

def stripZeros : Nat → Nat → Int → Decimal
  | 0, m, e => ⟨m, e⟩
  | fuel + 1, m, e => if m % 10 = 0 ∧ m ≠ 0 then stripZeros fuel (m / 10) (e + 1) else ⟨m, e⟩

/-- Among the two multiples of `10 ^ q` around `n / d`, one that reads back as
`target`; of two such, the nearer, and an even last digit on a tie. -/
def onGrid? (target : Binary64) (n d : Nat) (q : Int) : Option Decimal :=
  let num := raiseTen n (-q)
  let den := raiseTen d q
  let near := roundQuotient num den
  let low := num / den
  let readsBack (m : Nat) := (Decimal.mk m q).toBinary64 false = target
  if readsBack near then some (stripZeros 20 near q)
  else if readsBack low then some (stripZeros 20 low q)
  else if readsBack (low + 1) then some (stripZeros 20 (low + 1) q)
  else none

/-- The shortest decimal that reads back as the positive number `n / d`, which is
`target`. Seventeen digits always suffice. -/
def shortest (target : Binary64) (n d : Nat) : Decimal :=
  let top := decimalExponent n d
  let tries := (List.range 17).map fun (count : Nat) => top - (count : Int)
  (tries.findSome? (onGrid? target n d)).getD ⟨roundQuotient n d, 0⟩

end Decimal

/-- The decimal numeral of a natural number. -/
def numeral (n : Nat) : List Char := Nat.toDigits 10 n

/-- A numeral with zeros before it up to a width. -/
def paddedNumeral (width n : Nat) : List Char :=
  List.replicate (width - (numeral n).length) '0' ++ numeral n

/-- The decimal numeral of a whole number, with its sign when negative. -/
def wholeText (n : Int) : String :=
  String.ofList (if n < 0 then '-' :: numeral n.natAbs else numeral n.natAbs)

/-- How many digits a number may have to be read or written. -/
def digitLimit : Nat := 4300

def digitLimitText : String := "Exceeds the limit (" ++ wholeText digitLimit ++
  " digits) for integer string conversion"

/-- Says that a numeral has too many digits. -/
def longNumeralText (digits : Nat) : String :=
  digitLimitText ++ ": value has " ++ wholeText digits ++
    " digits; use sys.set_int_max_str_digits() to increase the limit"

namespace Decimal

/-- Positional notation from `0.0001` to below `10 ^ 16`, with a fraction in
every case; outside, one digit before the point and an exponent of at least two digits. -/
def layout (x : Decimal) : List Char :=
  let ds := numeral x.digits
  let point : Int := ds.length + x.exponent
  if -4 < point ∧ point ≤ 16 then
    if point ≤ 0 then '0' :: '.' :: List.replicate (-point).toNat '0' ++ ds
    else if ds.length ≤ point.toNat then
      ds ++ List.replicate (point.toNat - ds.length) '0' ++ ['.', '0']
    else ds.take point.toNat ++ '.' :: ds.drop point.toNat
  else
    let power := point - 1
    let fraction := if ds.length = 1 then [] else '.' :: ds.drop 1
    ds.take 1 ++ fraction ++ 'e' :: (if power < 0 then '-' else '+') ::
      paddedNumeral 2 power.natAbs

end Decimal

namespace Binary64

def withSign (negative : Bool) (text : List Char) : String :=
  String.ofList (if negative then '-' :: text else text)

/-- The shortest text that reads back as the same number. -/
def text : Binary64 → String
  | .nan => "nan"
  | .infinite s => withSign s ['i', 'n', 'f']
  | .finite s m e h =>
    if m = 0 then withSign s ['0', '.', '0']
    else withSign s
      (Decimal.shortest (.finite false m e h) (raise m e) (raise 1 (-e))).layout

/-- The number with exactly `places` decimal places, an exact tie going to the even
last digit. The sign is kept also when all digits are zero. -/
def fixedText (places : Nat) : Binary64 → String
  | .nan => "nan"
  | .infinite s => withSign s ['i', 'n', 'f']
  | .finite s m e _ =>
    let unit := raiseTen 1 places
    let scaled := roundQuotient (raiseTen (raise m e) places) (raise 1 (-e))
    withSign s (numeral (scaled / unit) ++
      (if places = 0 then [] else '.' :: paddedNumeral places (scaled % unit)))

end Binary64
end ScriptProfiling
