import ScriptProfiling.Literal.Fault

/-!
# Terms

Of an expression only its worth is kept, which says whether it is a literal and whether
it can be a key, and what messages about it need to know.
-/
namespace ScriptProfiling
namespace Literal

/-- What the value of an expression would be. -/
inductive Worth where
  | number (imaginary signed : Bool)
  /-- Any other value that can be a key. -/
  | constant
  /-- A value that cannot be a key because of a part of the given type. -/
  | container (typeName : String)
  | refused (why : Refusal)
  deriving DecidableEq, Repr

/-- The first of some worths that is refused. -/
def refusal? (items : List Worth) : Option Refusal :=
  items.findSome? fun
    | .refused why => some why
    | _ => none

/-- Why a worth cannot be a key. -/
def Worth.keyRefusal? : Worth → Option Refusal
  | .refused why => some why
  | .container typeName => some (.unhashable typeName)
  | _ => none

/-- A tuple can be a key if all its items can. -/
def Worth.tuple (items : List Worth) : Worth :=
  match refusal? items with
  | some why => .refused why
  | none =>
    (items.find? fun
      | .container _ => true
      | _ => false).getD .constant

def Worth.set (items : List Worth) : Worth :=
  match items.findSome? Worth.keyRefusal? with
  | some why => .refused why
  | none => .container "set"

/-- Each entry's value is looked at before its key is entered. -/
def Worth.mapping (entries : List (Worth × Worth)) : Worth :=
  match entries.findSome? fun e => refusal? [e.1, e.2] <|> e.1.keyRefusal? with
  | some why => .refused why
  | none => .container "dict"

/-- A sign may stand before a number once. -/
def Worth.signed : Worth → Worth
  | .number imaginary false => .number imaginary true
  | _ => .refused .computed

/-- A real number and an imaginary one add up to a constant. -/
def Worth.sum : Worth → Worth → Worth
  | .number false _, .number true false => .constant
  | _, _ => .refused .computed

/-- An expression as far as rules, hints and values depend on it. -/
structure Term where
  /-- What messages call it. -/
  noun : String
  worth : Worth
  /-- The noun of the part that cannot be a target, if there is one. -/
  misfit : Option String
  /-- The name, if the expression is a name. -/
  name : Option String

/-- An expression that has a constant value and the given noun. -/
def Term.value (noun : String) (worth : Worth) : Term := ⟨noun, worth, some noun, none⟩

/-- An expression whose value would have to be computed. -/
def Term.computed (noun : String) : Term := .value noun (.refused .computed)

def Term.ofName (text : String) : Term := ⟨"name", .refused .computed, none, some text⟩

def Term.attribute : Term := ⟨"attribute", .refused .computed, none, none⟩

def Term.starred (t : Term) : Term := ⟨"starred", .refused .computed, t.misfit, none⟩

def Term.tuple (items : List Term) : Term :=
  ⟨"tuple", .tuple (items.map Term.worth), items.findSome? Term.misfit, none⟩

def expressionNoun : String := "expression"

end Literal
end ScriptProfiling
