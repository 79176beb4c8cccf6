import ScriptProfiling.Fault
import ScriptProfiling.Literal
import ScriptProfiling.Text.Word

/-!
# Handlers in markup

A tag that begins with an at sign names a handler. Its parameters are a literal, or the
name of an action with its arguments in brackets; they are looked at when the tag is
closed.
-/
namespace ScriptProfiling
namespace Handler

/-- Characters of an action's name. -/
def isActionChar (c : Char) : Bool := isWord c || c == '.'

/-- The part of the parameters that has to be a literal: the arguments of an action, or
everything. An action without arguments has an empty list of them. -/
def literalPart (cs : List Char) : List Char :=
  let rest := cs.dropWhile isActionChar
  match rest with
  | [] => ['(', ')']
  | c :: more =>
    if c = '(' && more.getLast? = some ')' && !more.contains '\n' then rest else cs

/-- Refuses parameters that are no literal. -/
def check (parameters : List Char) : Except MarkupFault Unit :=
  let part := literalPart (strip parameters)
  let shown := String.ofList parameters
  match Literal.worthOf part with
  | .ok (.refused why) => .error (.openParameters shown why)
  | .ok _ => .ok ()
  | .error cause => .error (.badParameters shown (String.ofList part) cause)

end Handler
end ScriptProfiling
