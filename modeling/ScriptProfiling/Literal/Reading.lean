import ScriptProfiling.Literal.Term
import ScriptProfiling.Literal.Token
import Std.Data.HashMap

/-!
# Reading by rules

A reading passes tokens and gives a part of an expression, or fails, and then another
one may be tried from the same place. What a rule gives at a place is kept. A fault ends
all reading. Hints are readings of faulty expressions, which are tried only when an
expression is known to be faulty; a hint that succeeds says what the fault is.
-/
namespace ScriptProfiling
namespace Literal

/-- The rules that lead to one another. -/
inductive Rule where
  | expression | starExpression
  | disjunction | conjunction | inversion
  | bitOr | bitXor | bitAnd | shift | sum | product | factor
  | awaited | primary | texts | arguments | badNamed
  deriving DecidableEq, Repr, Hashable

structure Source where
  tokens : Array Placed
  ending : Ending

/-- A reading's place, how many tokens have been looked at, whether hints are tried and
what the rules have given. -/
structure Progress where
  place : Nat
  seen : Nat
  hinting : Bool
  known : Std.HashMap (Rule × Nat) (Option (Term × Nat))

def Progress.start (hinting : Bool) : Progress := ⟨0, 0, hinting, ∅⟩

def Reading (α : Type) : Type :=
  Source → Progress → Except ExpressionFault (Option α) × Progress

namespace Reading

variable {α β : Type}

protected def pure (a : α) : Reading α := fun _ p => (.ok (some a), p)

protected def bind (r : Reading α) (f : α → Reading β) : Reading β := fun s p =>
  match r s p with
  | (.ok (some a), p) => f a s p
  | (.ok none, p) => (.ok none, p)
  | (.error e, p) => (.error e, p)

instance : Monad Reading where
  pure := Reading.pure
  bind := Reading.bind

def fail : Reading α := fun _ p => (.ok none, p)

/-- The second reading from the same place if the first one fails. -/
def orElse (r : Reading α) (other : Unit → Reading α) : Reading α := fun s p =>
  match r s p with
  | (.ok none, q) => other () s { q with place := p.place }
  | result => result

instance : OrElse (Reading α) := ⟨orElse⟩

def blame (e : ExpressionFault) : Reading α := fun _ p => (.error e, p)

/-- Succeeds without passing a token if the reading does. -/
def ahead (r : Reading α) : Reading Unit := fun s p =>
  match r s p with
  | (.ok (some _), q) => (.ok (some ()), { q with place := p.place })
  | (.ok none, q) => (.ok none, q)
  | (.error e, q) => (.error e, q)

/-- Succeeds without passing a token if the reading fails. -/
def without (r : Reading α) : Reading Unit := fun s p =>
  match r s p with
  | (.ok (some _), q) => (.ok none, q)
  | (.ok none, q) => (.ok (some ()), { q with place := p.place })
  | (.error e, q) => (.error e, q)

def perhaps (r : Reading α) : Reading (Option α) := (some <$> r) <|> pure none

/-- Repeats a step as often as it succeeds; the fuel bounds how often. -/
def iterate (step : α → Reading α) : Nat → α → Reading α
  | 0, a => pure a
  | fuel + 1, a => (do iterate step fuel (← step a)) <|> pure a

/-- Repeats a step that passes tokens. -/
def repeated (step : α → Reading α) (a : α) : Reading α := fun s p =>
  iterate step s.tokens.size a s p

/-- One or more readings with another one between each two. -/
def separated (r : Reading α) (separator : Reading Unit) : Reading (List α) := do
  let first ← r
  let others ← repeated (fun found => do separator; return (← r) :: found) []
  return first :: others.reverse

/-- A reading only for hints. -/
def hint (r : Reading α) : Reading α := fun s p => if p.hinting then r s p else fail s p

/-- The reading without hints. -/
def plainly (r : Reading α) : Reading α := fun s p =>
  let (result, q) := r s { p with hinting := false }
  (result, { q with hinting := p.hinting })

/-- The next token, if it is one of a kind. What stands behind the last token is a fault
as soon as it is looked at. -/
def take (kind : Token → Option α) : Reading α := fun s p =>
  let q := { p with seen := max p.seen (p.place + 1) }
  match s.tokens[p.place]? with
  | some t => (.ok (kind t.token), { q with place := p.place + 1 })
  | none =>
    match s.ending with
    | .complete => (.error .ungrammatical, q)
    | .unclosed b => (.error (.unclosed b.opening), q)
    | .strayBackslash _ => (.error .strayBackslash, q)
    | .fault cause => (.error cause, q)

/-- A keyword or a sign. -/
def fixed (text : String) : Reading Unit :=
  take fun t => if t = .fixed text then some () else none

/-- The first of some keywords and signs that comes next. -/
def oneOf (texts : List String) : Reading String :=
  take fun
    | .fixed text => if texts.contains text then some text else none
    | _ => none

/-- A name that is no keyword. -/
def name : Reading String := take fun
  | .name text => some text
  | _ => none

/-- The open brackets behind the last token that was passed. -/
def depth : Reading Nat := fun s p =>
  (.ok (some ((s.tokens[p.place - 1]?.map Placed.depth).getD 0)), p)

/-- What a rule gives, looked up if it was read at this place before. -/
def remembered (rule : Rule) (r : Reading Term) : Reading Term := fun s p =>
  match p.known[(rule, p.place)]? with
  | some (some (t, place)) => (.ok (some t), { p with place })
  | some none => (.ok none, p)
  | none =>
    match r s p with
    | (.ok found, q) =>
      (.ok found, { q with
        known := q.known.insert (rule, p.place) (found.map fun t => (t, q.place)) })
    | (.error e, q) => (.error e, q)

end Reading

end Literal
end ScriptProfiling
