import ScriptProfiling.Fault

/-!
# Values in messages

A value that is not what it should be is written out in the message that says so. Whole
numbers have a limit of digits, and what lies inside a sequence or a table takes room on the
stack, which may run out. Values are written from the left, and the first of the two faults
that is met on the way is the one that is raised.
-/
namespace ScriptProfiling
namespace Value

mutual

/-- The fault in writing a value, if there is one, with room for so many sequences and tables
inside each other. -/
def obstacle? : Nat → Value → Option Fault
  | _, .int n => if (numeral n.natAbs).length ≤ digitLimit then none else some .numberTooLong
  | room, .list xs => itemsObstacle? room xs
  | room, .tuple xs => itemsObstacle? room xs
  | room, .table fields => fieldsObstacle? room fields
  | _, _ => none

def itemsObstacle? : Nat → List Value → Option Fault
  | _, [] => none
  | 0, _ :: _ => some .tooDeep
  | room + 1, x :: xs => (obstacle? room x).or (itemsObstacle? (room + 1) xs)

def fieldsObstacle? : Nat → List (String × Value) → Option Fault
  | _, [] => none
  | 0, _ :: _ => some .tooDeep
  | room + 1, (_, x) :: fields => (obstacle? room x).or (fieldsObstacle? (room + 1) fields)

end

mutual

/-- How many sequences and tables with something in them lie inside each other. -/
def nesting : Value → Nat
  | .list xs => itemsNesting xs
  | .tuple xs => itemsNesting xs
  | .table fields => fieldsNesting fields
  | _ => 0

def itemsNesting : List Value → Nat
  | [] => 0
  | x :: xs => max (nesting x + 1) (itemsNesting xs)

def fieldsNesting : List (String × Value) → Nat
  | [] => 0
  | (_, x) :: fields => max (nesting x + 1) (fieldsNesting fields)

end

/-- A value written out, with room for so many sequences and tables inside each other. -/
def written (room : Nat) (v : Value) : Except Fault String :=
  match v.obstacle? room with
  | none => .ok v.literal
  | some f => .error f

end Value
end ScriptProfiling
