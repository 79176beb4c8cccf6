import ScriptProfiling.Literal.Reading

/-!
# Items and comprehensions

What may stand between two commas: an expression, one that is starred, or one that is
given a name. A comprehension says what an item is computed from.
-/
namespace ScriptProfiling
namespace Literal

open Reading

def openBrace : Reading Unit := fixed "\x7b"

def closeBrace : Reading Unit := fixed "\x7d"

variable (next : Rule → Reading Term)

/-- A star is faulty in an argument if no expression follows it. -/
def starredExpression : Reading Term :=
  (do fixed "*"; return .starred (← next .expression)) <|> (do fixed "*"; blame .bareStar)

def starExpression : Reading Term :=
  (do fixed "*"; return .starred (← next .bitOr)) <|> next .expression

/-- Items with commas between them and perhaps one behind them; a single item without a
comma stands for itself. -/
def itemsOrOne (item : Reading Term) : Reading Term := do
  let items ← separated item (fixed ",")
  let comma ← perhaps (fixed ",")
  match items, comma with
  | [t], none => return t
  | _, _ => return .tuple items

def starExpressions : Reading Term := itemsOrOne (next .starExpression)

/-- An expression that is given a name where it stands. -/
def assignment : Reading Term := do
  let _ ← name
  fixed ":="
  let _ ← next .expression
  return .computed "named expression"

/-- An expression with no sign behind it that would give it a name. -/
def notNamed : Reading Term := do
  let t ← next .expression
  without (fixed ":=")
  return t

def namedExpression : Reading Term := assignment next <|> hint (next .badNamed) <|> notNamed next

/-- An item of a tuple or a set. -/
def starNamed : Reading Term :=
  (do fixed "*"; return .starred (← next .bitOr)) <|> namedExpression next

def starNameds : Reading (List Term) := do
  let items ← separated (starNamed next) (fixed ",")
  let _ ← perhaps (fixed ",")
  return items

/-! ## Comprehensions -/

/-- What a comprehension assigns to. -/
def target : Reading Unit := do
  let _ ← perhaps (fixed "*")
  let t ← next .primary
  if t.misfit.isSome then fail

def targets : Reading Unit := do
  let _ ← separated (target next) (fixed ",")
  let _ ← perhaps (fixed ",")

/-- The beginning of a clause of a comprehension. -/
def begunClause : Reading Unit := do
  let _ ← perhaps (fixed "async")
  fixed "for"

def badTarget : Reading Unit := do
  begunClause
  match (← starExpressions next).misfit with
  | some noun => blame (.noTarget noun)
  | none => fail

def forClause : Reading Unit := do
  match ← perhaps (do begunClause; targets next; fixed "in") with
  | none => hint (badTarget next)
  | some () =>
    let _ ← next .disjunction
    repeated (fun _ => do fixed "if"; let _ ← next .disjunction) ()

def forClauses : Reading Unit := do
  let _ ← separated (forClause next) (pure ())

/-- A comprehension of a starred item, or of several. -/
def badComprehension : Reading Term :=
  (do
    fixed "(" <|> openBrace
    let _ ← starredExpression next
    forClauses next
    blame .starredComprehension) <|>
  (do
    openBrace
    let _ ← starNamed next
    fixed ","
    let _ ← starNameds next
    forClauses next
    blame .openComprehensionTarget) <|>
  (do
    openBrace
    let _ ← starNamed next
    fixed ","
    forClauses next
    blame .openComprehensionTarget)

/-- A comprehension in brackets, which may be the only argument of a call. -/
def generator : Reading Term :=
  (do
    fixed "("
    let _ ← assignment next <|> notNamed next
    forClauses next
    fixed ")"
    return .computed "generator expression") <|> hint (badComprehension next)

def setComprehension : Reading Term :=
  (do
    openBrace
    let _ ← namedExpression next
    forClauses next
    closeBrace
    return .computed "set comprehension") <|> hint (badComprehension next)

end Literal
end ScriptProfiling
