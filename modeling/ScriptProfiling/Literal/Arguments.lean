import ScriptProfiling.Literal.Item

/-!
# Arguments of calls

Plain arguments come first, then those with a name, and last the entries of mappings.
The hints are tried in an order of their own.
-/
namespace ScriptProfiling
namespace Literal

open Reading

variable (next : Rule → Reading Term)

/-- How many arguments are plain, and whether a mapping is spread behind them. -/
structure Arguments where
  plain : Nat
  spread : Bool

/-- An argument without a name. -/
def plainArgument : Reading Unit :=
  (do let _ ← starredExpression next) <|>
  (do
    let _ ← assignment next <|> notNamed next
    without (fixed "="))

def namedArgument : Reading Unit := do
  let _ ← name
  fixed "="
  let _ ← next .expression

/-- Something else than a name, or a comprehension, around the equals sign. -/
def badNamedArgument : Reading Unit :=
  (do
    let noun ← oneOf ["True", "False", "None"]
    fixed "="
    blame (.noTarget noun)) <|>
  (do namedArgument next; forClauses next; blame .singleEquals) <|>
  (do
    without (do let _ ← name; fixed "=")
    let _ ← next .expression
    fixed "="
    blame .argumentAssigned)

/-- An argument that has a name, or one whose items are spread: whether it is the latter. -/
def namedOrStarred : Reading Bool :=
  (do hint (badNamedArgument next); return false) <|>
  (do namedArgument next; return false) <|>
  (do let _ ← starredExpression next; return true)

/-- An argument that has a name, or one whose entries are spread: whether it is the latter. -/
def namedOrSpread : Reading Bool :=
  (do hint (badNamedArgument next); return false) <|>
  (do namedArgument next; return false) <|>
  (do fixed "**"; let _ ← next .expression; return true)

def namedArguments : Reading Arguments :=
  let starred := separated (namedOrStarred next) (fixed ",")
  let spread := separated (namedOrSpread next) (fixed ",")
  (do
    let first ← starred
    fixed ","
    return ⟨first.count true, (← spread).contains true⟩) <|>
  (do return ⟨(← starred).count true, false⟩) <|>
  (do return ⟨0, (← spread).contains true⟩)

def argumentList : Reading Arguments :=
  (do
    let plain ← separated (plainArgument next) (fixed ",")
    let named := (← perhaps (do fixed ","; namedArguments next)).getD ⟨0, false⟩
    return { named with plain := plain.length + named.plain }) <|>
  namedArguments next

/-- A plain argument that comes late, or a comprehension that is not the only argument. -/
def badArguments : Reading Unit :=
  (do
    let _ ← argumentList next
    fixed ","
    fixed "*"
    blame .lateSpread) <|>
  (do
    let _ ← next .expression
    forClauses next
    fixed ","
    let _ ← perhaps ((do let _ ← argumentList next) <|>
      (do let _ ← next .expression; forClauses next))
    blame .openGenerator) <|>
  (do namedArgument next; forClauses next; blame .singleEquals) <|>
  (do
    let found ← argumentList next
    forClauses next
    if found.plain ≤ 1 then fail else blame .openGenerator) <|>
  (do
    let _ ← argumentList next
    fixed ","
    let _ ← next .expression
    forClauses next
    blame .openGenerator) <|>
  (do
    let found ← argumentList next
    fixed ","
    let _ ← argumentList next
    blame (.lateArgument found.spread))

def arguments : Reading Term :=
  (do
    let _ ← argumentList next
    let _ ← perhaps (fixed ",")
    ahead (fixed ")")
    return .computed expressionNoun) <|>
  (do hint (badArguments next); return .computed expressionNoun)

end Literal
end ScriptProfiling
