import ScriptProfiling.Value.Writing

/-!
# Room for a value

Two things can go wrong when a value is written out: a whole number has too many digits, or the
stack has no room for the parts that lie inside each other. How much room a value needs is read
off the value: with at least as much as its nesting the stack never runs out.
-/
namespace ScriptProfiling
namespace Value

/-- A value is written out, or one of its numbers is too long, or it lies deeper than there is
room for. -/
def Hindered (room nesting : Nat) (obstacle : Option Fault) : Prop :=
  obstacle = none ∨ obstacle = some .numberTooLong ∨ (obstacle = some .tooDeep ∧ room < nesting)

theorem Hindered.or {room inner outer : Nat} {first rest : Option Fault}
    (hfirst : Hindered room inner first) (hrest : Hindered (room + 1) outer rest) :
    Hindered (room + 1) (max (inner + 1) outer) (first.or rest) := by
  rcases hfirst with rfl | rfl | ⟨rfl, hroom⟩
  · rw [Option.none_or]
    rcases hrest with rfl | rfl | ⟨rfl, hroom⟩
    · exact Or.inl rfl
    · exact Or.inr (Or.inl rfl)
    · exact Or.inr (Or.inr ⟨rfl, by omega⟩)
  · exact Or.inr (Or.inl rfl)
  · exact Or.inr (Or.inr ⟨rfl, by omega⟩)

mutual

theorem hindered_obstacle? : ∀ (room : Nat) (v : Value), Hindered room v.nesting (v.obstacle? room)
  | room, .int n => by
    unfold obstacle?
    split
    · exact Or.inl rfl
    · exact Or.inr (Or.inl rfl)
  | room, .list xs => hindered_itemsObstacle? room xs
  | room, .tuple xs => hindered_itemsObstacle? room xs
  | room, .table fields => hindered_fieldsObstacle? room fields
  | _, .null | _, .bool _ | _, .float _ | _, .text _ | _, .bytes _ | _, .path _ | _, .date _
  | _, .time _ | _, .moment .. => Or.inl rfl

theorem hindered_itemsObstacle? : ∀ (room : Nat) (xs : List Value),
    Hindered room (itemsNesting xs) (itemsObstacle? room xs)
  | room, [] => Or.inl (by unfold itemsObstacle?; rfl)
  | 0, x :: xs => Or.inr (Or.inr ⟨rfl, by rw [itemsNesting]; omega⟩)
  | room + 1, x :: xs => by
    rw [itemsObstacle?, itemsNesting]
    exact (hindered_obstacle? room x).or (hindered_itemsObstacle? (room + 1) xs)

theorem hindered_fieldsObstacle? : ∀ (room : Nat) (fields : List (String × Value)),
    Hindered room (fieldsNesting fields) (fieldsObstacle? room fields)
  | room, [] => Or.inl (by unfold fieldsObstacle?; rfl)
  | 0, (_, x) :: fields => Or.inr (Or.inr ⟨rfl, by rw [fieldsNesting]; omega⟩)
  | room + 1, (_, x) :: fields => by
    rw [fieldsObstacle?, fieldsNesting]
    exact (hindered_obstacle? room x).or (hindered_fieldsObstacle? (room + 1) fields)

end

theorem obstacle?_ne_tooDeep {room : Nat} {v : Value} (h : v.nesting ≤ room) :
    v.obstacle? room ≠ some .tooDeep := by
  intro hdeep
  rcases hindered_obstacle? room v with hnone | hlong | ⟨-, hroom⟩
  · cases hdeep.symm.trans hnone
  · cases hdeep.symm.trans hlong
  · exact absurd h (Nat.not_le.mpr hroom)

end Value
end ScriptProfiling
