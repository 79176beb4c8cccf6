import ScriptProfiling.Literal.Grammar

/-!
# Literals

A text is a literal if it is an expression and its value is written out. It is read
without hints first, and once more with them to say what is wrong with it.
-/
namespace ScriptProfiling
namespace Literal

open Reading

/-- How many rules may lead to one another before a token is passed. -/
def rulesPerToken : Nat := 32

/-- The fault that is told in place of one that reading gives. A fault behind the tokens
comes first, and so does a bracket that is never closed and was opened on an earlier line
than the last token that was looked at. -/
def Source.tell (s : Source) (seen : Nat) (found : ExpressionFault) : ExpressionFault :=
  let line := (s.tokens[seen - 1]?.map Placed.line).getD 0
  let bracket (b : Bracket) := if b.line < line then .unclosed b.opening else found
  match s.ending with
  | .complete => found
  | .fault cause => cause
  | .unclosed b => bracket b
  | .strayBackslash b => (b.map bracket).getD found

/-- A fault that a rule found stays as it is once reading has met the end of the text. -/
def Source.tellRaised (s : Source) (seen : Nat) (found : ExpressionFault) : ExpressionFault :=
  if (s.tokens[seen - 1]?.map Placed.meetsEnd).getD true then found else s.tell seen found

/-- Reads a text once without hints and, if that fails, once more with them. -/
def Source.read (s : Source) : Except ExpressionFault Worth :=
  let whole := wholeExpression (rulesPerToken * (s.tokens.size + 1))
  match whole s (.start false) with
  | (.ok (some t), _) => .ok t.worth
  | (.error e, p) => .error (s.tellRaised p.seen e)
  | (.ok none, p) =>
    match whole s { Progress.start true with seen := p.seen } with
    | (.error e, q) => .error (s.tellRaised q.seen e)
    | (.ok _, q) =>
      if (s.tokens[p.seen - 1]?.map Placed.token) = some .indent then .error .indented
      else .error (s.tell q.seen .ungrammatical)

/-- What the value of a text is, or what is wrong with it. -/
def worthOf (cs : List Char) : Except ExpressionFault Worth :=
  if cs.contains (Char.ofNat 0) then .error .nulCharacter
  else
    let (tokens, ending) := tokens cs
    Source.read ⟨tokens.toArray, ending⟩

end Literal
end ScriptProfiling
