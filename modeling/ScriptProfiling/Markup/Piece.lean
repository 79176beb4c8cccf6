/-!
# Pieces of markup

A tag is an opening bracket, a small letter or one of three marks, and then characters
other than brackets up to the closing one. Backslashes directly before a tag belong
to it. All other characters are plain.
-/
namespace ScriptProfiling

inductive Piece where
  | char (c : Char)
  | tag (escapes : Nat) (body : List Char)
  deriving DecidableEq, Repr

def opensTag (c : Char) : Bool :=
  ('a' ≤ c && c ≤ 'z') || c == '#' || c == '/' || c == '@'

def isBracket (c : Char) : Bool := c == '[' || c == ']'

/-- The body of a tag after its opening bracket, and what follows the tag. -/
def tagBody? (cs : List Char) : Option (List Char × List Char) :=
  match cs with
  | c :: more =>
    if opensTag c then
      let inner := more.takeWhile (!isBracket ·)
      match more.drop inner.length with
      | ']' :: rest => some (c :: inner, rest)
      | _ => none
    else none
  | [] => none

theorem tagBody?_length {cs body rest : List Char} (h : tagBody? cs = some (body, rest)) :
    rest.length < cs.length := by
  unfold tagBody? at h
  split at h
  · next c more =>
    split at h
    · simp only at h
      split at h
      · next tail eq =>
        simp only [Option.some.injEq, Prod.mk.injEq] at h
        have len := congrArg List.length eq
        simp only [List.length_drop, List.length_cons] at len
        rw [← h.2]
        simp only [List.length_cons]
        omega
      · simp at h
    · simp at h
  · simp at h

def isBackslash (c : Char) : Bool := c == '\\'

/-- The pieces of a text. -/
def pieces (cs : List Char) : List Piece :=
  let slashes := cs.takeWhile isBackslash
  let after := cs.drop slashes.length
  match eq : after with
  | [] => slashes.map .char
  | c :: more =>
    if c = '[' then
      match body : tagBody? more with
      | some (inner, rest) => .tag slashes.length inner :: pieces rest
      | none => slashes.map .char ++ .char c :: pieces more
    else slashes.map .char ++ .char c :: pieces more
termination_by cs.length
decreasing_by
  all_goals
    have len := congrArg List.length eq
    simp only [after, List.length_drop, List.length_cons] at len
  · have := tagBody?_length body
    omega
  all_goals omega

/-- The text that a piece stands for. -/
def Piece.source : Piece → List Char
  | .char c => [c]
  | .tag escapes body => List.replicate escapes '\\' ++ '[' :: body ++ [']']

end ScriptProfiling
