import ScriptProfiling.Literal.Arguments
import ScriptProfiling.Literal.Escape

/-!
# The grammar of expressions

Each rule tries its forms in order. Where a form is often missed, hints stand before it
or behind it. The rules are tied together at the end: `ruleFor` reads each of them with
fuel for those that it leads to.
-/
namespace ScriptProfiling
namespace Literal

open Reading

/-! ## Numbers and texts -/

/-- A decimal number with too many digits is a fault, unless they are all zero. -/
def readNumber : Reading Term := do
  let written ← take fun
    | .number written => some written
    | _ => none
  let imaginary := written.any fun c => c = 'j' || c = 'J'
  let whole := written.all fun c => isAsciiDigit c || c = '_'
  let digits := (written.filter isAsciiDigit).length
  if whole && written.head? != some '0' && digitLimit < digits then blame (.longNumeral digits)
  else return .value "literal" (.number imaginary false)

def textToken : Reading (List Char × List Char) := take fun
  | .text letters body => some (letters, body)
  | _ => none

/-- Refuses texts and bytes side by side. -/
def checkTexts (bytes : Option Bool) : List (List Char × List Char) → Except ExpressionFault Unit
  | [] => .ok ()
  | (letters, body) :: more => do
    checkText letters body
    let now := letters.contains 'b'
    if bytes = some (!now) then throw .mixedTexts
    checkTexts (some now) more

/-- Texts that follow one another are one. -/
def texts : Reading Term := do
  let found ← separated textToken (pure ())
  match checkTexts none found with
  | .error e => blame e
  | .ok () =>
    if found.any fun t => t.1.contains 'f' then return .computed "f-string expression"
    else return .value "literal" .constant

section Rules

variable (next : Rule → Reading Term)

/-! ## Atoms -/

def yielded : Reading Term :=
  (do
    fixed "yield"
    fixed "from"
    let _ ← next .expression
    return .computed "yield expression") <|>
  (do
    fixed "yield"
    let _ ← perhaps (starExpressions next)
    return .computed "yield expression")

/-- Empty brackets, or items with at least one comma behind the first. -/
def tuple : Reading Term := do
  fixed "("
  let items ← perhaps do
    let first ← starNamed next
    fixed ","
    return first :: ((← perhaps (starNameds next)).getD [])
  fixed ")"
  return .tuple (items.getD [])

/-- A star in brackets without a comma. -/
def badGroup : Reading Term :=
  (do
    fixed "("
    let _ ← starredExpression next
    fixed ")"
    blame .starredGroup) <|>
  (do
    fixed "("
    fixed "**"
    let _ ← next .expression
    fixed ")"
    blame .doublyStarredGroup)

/-- An expression in brackets. -/
def group : Reading Term :=
  (do
    fixed "("
    let t ← yielded next <|> namedExpression next
    fixed ")"
    return t) <|> hint (badGroup next)

def set : Reading Term := do
  openBrace
  let items ← starNameds next
  closeBrace
  return .value "set display" (.set (items.map Term.worth))

def entry : Reading (Worth × Worth) := do
  let key ← next .expression
  fixed ":"
  return (key.worth, (← next .expression).worth)

def entryOrSpread : Reading (Worth × Worth) :=
  (do
    fixed "**"
    let t ← next .bitOr
    return (.refused .spread, t.worth)) <|> entry next

/-- An entry with something else than a value behind its key. This is told without a hint. -/
def badValue : Reading Unit :=
  (do
    let _ ← next .expression
    fixed ":"
    fixed "*"
    let _ ← next .bitOr
    blame .starredValue) <|>
  (do
    let _ ← next .expression
    fixed ":"
    ahead (closeBrace <|> fixed ",")
    blame .missingValue)

/-- Entries of which one has no value, or no sign behind its key. -/
def badEntries : Reading Unit :=
  (do
    let _ ← separated (entryOrSpread next) (fixed ",")
    fixed ","
    (do
      let _ ← next .expression
      without (fixed ":")
      blame .missingKeyMark) <|> badValue next) <|> badValue next

def mapping : Reading Term :=
  (do
    openBrace
    let entries ← perhaps do
      let entries ← separated (entryOrSpread next) (fixed ",")
      let _ ← perhaps (fixed ",")
      return entries
    closeBrace
    return .value "dict literal" (.mapping (entries.getD []))) <|>
  (do openBrace; badEntries next; fail)

def mappingComprehension : Reading Term :=
  (do
    openBrace
    let _ ← entry next
    forClauses next
    closeBrace
    return .computed "dict comprehension") <|>
  hint (do
    openBrace
    fixed "**"
    let _ ← next .bitOr
    forClauses next
    closeBrace
    blame .mappingComprehension)

/-- Constants that are written as words or as a sign. -/
def constant : Reading Term := do
  let text ← oneOf ["True", "False", "None", "..."]
  return .value (if text = "..." then "ellipsis" else text) .constant

def atom : Reading Term :=
  (do return .ofName (← name)) <|> constant <|> next .texts <|> readNumber <|>
  (do ahead (fixed "("); tuple next <|> group next <|> generator next) <|>
  (do
    ahead openBrace
    mapping next <|> set next <|> mappingComprehension next <|> setComprehension next)

/-- A call of the name for sets without arguments makes an empty one. -/
def called (t : Term) (bare : Bool) : Term :=
  .value "function call" (if t.name = some "set" && bare then .set [] else .refused .computed)

def primary : Reading Term := do
  repeated (fun t =>
    (do
      fixed "."
      let _ ← name
      return .attribute) <|>
    (do
      let _ ← generator next
      return called t false) <|>
    (do
      fixed "("
      let given ← perhaps (next .arguments)
      fixed ")"
      return called t given.isNone)) (← atom next)

/-! ## Operators -/

def awaited : Reading Term :=
  (do
    fixed "await"
    let _ ← next .primary
    return .computed "await expression") <|> next .primary

def factor : Reading Term :=
  (do
    let _ ← oneOf ["+", "-"]
    return .value expressionNoun (← next .factor).worth.signed) <|>
  (do
    fixed "~"
    let _ ← next .factor
    return .computed expressionNoun) <|>
  (do
    let base ← next .awaited
    match ← perhaps (do fixed "**"; next .factor) with
    | some _ => return .computed expressionNoun
    | none => return base)

/-- Operands with signs between them, grouped from the left. -/
def chain (operand : Rule) (signs : List String) : Reading Term := do
  repeated (fun left => do
    let w ← oneOf signs
    let right ← next operand
    let worth := if w = "+" || w = "-" then Worth.sum left.worth right.worth
      else .refused .computed
    return .value expressionNoun worth) (← next operand)

/-- A sign of comparison: whether it asks for membership. -/
def comparisonSign : Reading Bool :=
  (do let _ ← oneOf ["==", "!=", "<=", "<", ">=", ">"]; return false) <|>
  (do fixed "not"; fixed "in"; return false) <|>
  (do fixed "in"; return true) <|>
  (do fixed "is"; fixed "not"; return false) <|>
  (do fixed "is"; return false)

def comparison : Reading Term := do
  let left ← next .bitOr
  let pair := do
    let asks ← comparisonSign
    let _ ← next .bitOr
    return asks
  match ← perhaps pair with
  | none => return left
  | some asks =>
    let _ ← repeated (fun _ => pair) asks
    return { Term.computed "comparison" with misfit := if asks then left.misfit else none }

/-- Operands with a keyword between them. -/
def joined (operand : Rule) (keyword : String) : Reading Term := do
  match ← separated (next operand) (fixed keyword) with
  | [t] => return t
  | _ => return .computed expressionNoun

def inversion : Reading Term :=
  (do
    fixed "not"
    let _ ← next .inversion
    return .computed expressionNoun) <|> comparison next

/-! ## Expressions -/

/-- A parameter of a function without a name. -/
def parameter : Reading Unit :=
  (do
    let _ ← name
    let _ ← perhaps (do fixed "="; next .expression)) <|>
  (do
    fixed "*" <|> fixed "**"
    let _ ← perhaps name) <|> fixed "/"

def function : Reading Term := do
  fixed "lambda"
  let _ ← perhaps (do
    let _ ← separated (parameter next) (fixed ",")
    let _ ← perhaps (fixed ","))
  fixed ":"
  let _ ← next .expression
  return .computed "lambda"

/-- The forms of an expression without the hints about them. -/
def plainExpression : Reading Term :=
  (do
    let _ ← next .disjunction
    fixed "if"
    let _ ← next .disjunction
    fixed "else"
    let _ ← next .expression
    return .computed "conditional expression") <|> next .disjunction <|> function next

/-- Names that are keywords in some places only. -/
def softKeywords : List String := ["_", "case", "match"]

/-- Whether a name is such a keyword or a beginning of one. -/
def mayBeKeyword (name : String) : Bool :=
  softKeywords.any fun w => name.toList.isPrefixOf w.toList

/-- Names that once stood before their argument without brackets. -/
def statementNames : List String := ["print", "exec"]

/-- Two expressions side by side within brackets, or a condition without its second side. -/
def badExpression : Reading Term :=
  (do
    without ((do let _ ← name; let _ ← textToken) <|>
      (do if !mayBeKeyword (← name) then fail))
    let first ← next .disjunction
    let _ ← plainly (plainExpression next)
    if statementNames.any (first.name = some ·) || (← depth) = 0 then fail
    blame .missingComma) <|>
  (do
    let _ ← next .disjunction
    fixed "if"
    let _ ← next .disjunction
    without (fixed "else" <|> fixed ":")
    blame .missingElse)

/-- A name before its argument without brackets. -/
def bareCall : Reading Term := do
  let called ← name
  without (fixed "(")
  let _ ← starExpressions next
  if statementNames.contains called then blame (.bareCall called) else fail

def expression : Reading Term :=
  hint (badExpression next) <|> hint (bareCall next) <|> plainExpression next

/-- An equals sign where a named expression stands. -/
def badNamed : Reading Term :=
  (do
    let t ← next .expression
    fixed ":="
    let _ ← next .expression
    blame (.noNameForValue t.noun)) <|>
  (do
    let _ ← name
    value
    blame .singleEquals) <|>
  (do
    without (tuple next <|> generator next <|>
      (do return .computed (← oneOf ["True", "None", "False"])))
    let t ← next .bitOr
    value
    blame (.equalsBehind t.noun))
where
  value : Reading Unit := do
    fixed "="
    let _ ← next .bitOr
    without (fixed "=" <|> fixed ":=")

def rules : Rule → Reading Term
  | .expression => expression next
  | .starExpression => starExpression next
  | .disjunction => joined next .conjunction "or"
  | .conjunction => joined next .inversion "and"
  | .inversion => inversion next
  | .bitOr => chain next .bitXor ["|"]
  | .bitXor => chain next .bitAnd ["^"]
  | .bitAnd => chain next .shift ["&"]
  | .shift => chain next .sum ["<<", ">>"]
  | .sum => chain next .product ["+", "-"]
  | .product => chain next .factor ["*", "/", "//", "%", "@"]
  | .factor => factor next
  | .awaited => awaited next
  | .primary => primary next
  | .texts => texts
  | .arguments => arguments next
  | .badNamed => badNamed next

end Rules

/-- Each rule, with fuel for those that it leads to. -/
def ruleFor : Nat → Rule → Reading Term
  | 0, _ => fail
  | fuel + 1, rule => remembered rule (rules (ruleFor fuel) rule)

/-- A whole expression: items with commas between them, and line ends behind them. -/
def wholeExpression (fuel : Nat) : Reading Term := do
  let t ← itemsOrOne (ruleFor fuel .expression)
  repeated (fun _ => take fun t => if t = .lineEnd then some () else none) ()
  take fun t => if t = .finish then some () else none
  return t

end Literal
end ScriptProfiling
