import ScriptProfiling.Markup.Piece
import Mathlib.Data.List.TakeWhile

/-!
# How a text falls into pieces

A text is a run of backslashes followed by nothing, by a tag, by a bracket that opens none,
or by another character; the pieces of what is left do not depend on what came before.

Proofs about the pieces of a text go by these four cases (`piecesInduction`). A tag has its body up
to the first closing bracket, and no bracket of either kind in it.
-/
namespace ScriptProfiling

/-- Whether the first bracket of a text closes a tag that is under way. -/
def closes : List Char → Bool
  | [] => false
  | c :: cs => if isBracket c then c == ']' else closes cs

/-- What may stand between the brackets of a tag. -/
def IsBody (body : List Char) : Prop :=
  ∃ c inner, body = c :: inner ∧ opensTag c = true ∧ ∀ d ∈ inner, isBracket d = false

instance (body : List Char) : Decidable (IsBody body) :=
  match body with
  | [] => isFalse nofun
  | c :: inner => decidable_of_iff (opensTag c = true ∧ inner.all (!isBracket ·) = true)
    ⟨fun ⟨hopens, hinner⟩ => ⟨c, inner, rfl, hopens, by simpa using hinner⟩,
      fun ⟨_, _, hbody, hopens, hinner⟩ => by
        obtain ⟨rfl, rfl⟩ := List.cons.inj hbody
        exact ⟨hopens, by simpa using hinner⟩⟩

section Tags

variable {cs body rest : List Char}

theorem IsBody.isBracket_eq_false (h : IsBody body) {c : Char} (hc : c ∈ body) :
    isBracket c = false := by
  obtain ⟨first, inner, rfl, hopens, hinner⟩ := h
  rcases List.mem_cons.mp hc with rfl | hc
  · cases hbracket : isBracket c with
    | false => rfl
    | true =>
      have heither : c = '[' ∨ c = ']' := by simpa [isBracket] using hbracket
      rcases heither with rfl | rfl <;> cases hopens
  · exact hinner c hc

theorem closes_eq (cs : List Char) :
    closes cs = ((cs.drop (cs.takeWhile (!isBracket ·)).length).head? == some ']') := by
  induction cs with
  | nil => rfl
  | cons c cs ih =>
    unfold closes
    cases hc : isBracket c with
    | true => simp [hc]
    | false => simp [hc, ih]

theorem tagBody?_eq_some (h : tagBody? cs = some (body, rest)) :
    IsBody body ∧ cs = body ++ ']' :: rest := by
  unfold tagBody? at h
  split at h
  · next c more =>
    split at h
    · next hopens =>
      dsimp only at h
      split at h
      · next tail hdrop =>
        obtain ⟨rfl, rfl⟩ := Prod.mk.inj (Option.some.inj h)
        have hsplit :=
          List.prefix_iff_eq_append.mp (List.takeWhile_prefix (!isBracket ·) (l := more))
        rw [hdrop] at hsplit
        refine ⟨⟨c, _, rfl, hopens, fun d hd => by simpa using List.mem_takeWhile_imp hd⟩, ?_⟩
        rw [List.cons_append, hsplit]
      · cases h
    · cases h
  · cases h

theorem not_closes_of_tagBody?_eq_none {c : Char} {more : List Char} (hopens : opensTag c = true)
    (h : tagBody? (c :: more) = none) : closes more = false := by
  rw [closes_eq]
  unfold tagBody? at h
  dsimp only at h
  rw [if_pos hopens] at h
  split at h
  · cases h
  · next hdrop =>
    cases hrest : more.drop (more.takeWhile (!isBracket ·)).length with
    | nil => rfl
    | cons d rest =>
      have hd : d ≠ ']' := fun hd => hdrop rest (hd ▸ hrest)
      simpa using hd

end Tags

section Backslashes

theorem takeWhile_backslashes (n : Nat) (rest : List Char) (h : rest.head? ≠ some '\\') :
    (List.replicate n '\\' ++ rest).takeWhile isBackslash = List.replicate n '\\' := by
  rw [List.takeWhile_append_of_pos (by simp [isBackslash])]
  cases rest with
  | nil => simp
  | cons c rest =>
    have hc : isBackslash c = false := by simpa [isBackslash] using h
    simp [hc]

theorem drop_backslashes (n : Nat) (rest : List Char) (h : rest.head? ≠ some '\\') :
    (List.replicate n '\\' ++ rest).drop
      ((List.replicate n '\\' ++ rest).takeWhile isBackslash).length = rest := by
  rw [takeWhile_backslashes n rest h, List.length_replicate]
  exact List.drop_left' List.length_replicate

theorem exists_backslashes (cs : List Char) :
    ∃ n rest, cs = List.replicate n '\\' ++ rest ∧ rest.head? ≠ some '\\' := by
  induction cs with
  | nil => exact ⟨0, [], rfl, by simp⟩
  | cons c cs ih =>
    by_cases hc : c = '\\'
    · obtain ⟨n, rest, rfl, hrest⟩ := ih
      exact ⟨n + 1, rest, by rw [hc]; rfl, hrest⟩
    · exact ⟨0, c :: cs, rfl, by simpa using hc⟩

end Backslashes

section Pieces

variable (n : Nat) {more inner rest : List Char}

theorem pieces_backslashes :
    pieces (List.replicate n '\\') = (List.replicate n '\\').map .char := by
  have htake := takeWhile_backslashes n [] (by simp)
  have hdrop := drop_backslashes n [] (by simp)
  rw [List.append_nil] at htake hdrop
  rw [pieces]
  split
  · rw [htake]
  · next c m heq =>
    rw [hdrop] at heq
    cases heq

theorem pieces_tag (h : tagBody? more = some (inner, rest)) :
    pieces (List.replicate n '\\' ++ '[' :: more) = .tag n inner :: pieces rest := by
  have htake := takeWhile_backslashes n ('[' :: more) (by simp)
  have hdrop := drop_backslashes n ('[' :: more) (by simp)
  rw [pieces]
  split
  · next heq => rw [hdrop] at heq; cases heq
  · next c m heq =>
    obtain ⟨rfl, rfl⟩ := List.cons.inj (hdrop.symm.trans heq)
    rw [if_pos rfl]
    split
    · next i r hb =>
      rw [h] at hb
      obtain ⟨rfl, rfl⟩ := Prod.mk.inj (Option.some.inj hb)
      rw [htake, List.length_replicate]
    · next hb =>
      rw [h] at hb
      cases hb

theorem pieces_bracket (h : tagBody? more = none) :
    pieces (List.replicate n '\\' ++ '[' :: more) =
      (List.replicate n '\\' ++ ['[']).map .char ++ pieces more := by
  have htake := takeWhile_backslashes n ('[' :: more) (by simp)
  have hdrop := drop_backslashes n ('[' :: more) (by simp)
  rw [pieces]
  split
  · next heq => rw [hdrop] at heq; cases heq
  · next c m heq =>
    obtain ⟨rfl, rfl⟩ := List.cons.inj (hdrop.symm.trans heq)
    rw [if_pos rfl]
    split
    · next i r hb =>
      rw [h] at hb
      cases hb
    · rw [htake, List.map_append, List.append_assoc]
      rfl

theorem pieces_char {c : Char} (hslash : c ≠ '\\') (hbracket : c ≠ '[') :
    pieces (List.replicate n '\\' ++ c :: more) =
      (List.replicate n '\\' ++ [c]).map .char ++ pieces more := by
  have htake := takeWhile_backslashes n (c :: more) (by simpa using hslash)
  have hdrop := drop_backslashes n (c :: more) (by simpa using hslash)
  rw [pieces]
  split
  · next heq => rw [hdrop] at heq; cases heq
  · next d m heq =>
    obtain ⟨rfl, rfl⟩ := List.cons.inj (hdrop.symm.trans heq)
    rw [if_neg hbracket, htake, List.map_append, List.append_assoc]
    rfl

theorem pieces_cons {c : Char} (hslash : c ≠ '\\') (hbracket : c ≠ '[') (more : List Char) :
    pieces (c :: more) = .char c :: pieces more :=
  pieces_char 0 hslash hbracket

end Pieces

/-- A property of texts follows from the four ways in which a text falls into pieces. -/
theorem piecesInduction {motive : List Char → Prop}
    (backslashes : ∀ n, motive (List.replicate n '\\'))
    (tag : ∀ n more inner rest, tagBody? more = some (inner, rest) → motive rest →
      motive (List.replicate n '\\' ++ '[' :: more))
    (bracket : ∀ n more, tagBody? more = none → motive more →
      motive (List.replicate n '\\' ++ '[' :: more))
    (char : ∀ n c more, c ≠ '\\' → c ≠ '[' → motive more →
      motive (List.replicate n '\\' ++ c :: more)) (cs : List Char) : motive cs := by
  induction hlength : cs.length using Nat.strong_induction_on generalizing cs with
  | _ length ih =>
    obtain ⟨n, after, rfl, hafter⟩ := exists_backslashes cs
    cases after with
    | nil => simpa using backslashes n
    | cons c more =>
      have hshorter : more.length < length := by
        rw [← hlength, List.length_append, List.length_cons]
        omega
      by_cases hc : c = '['
      · obtain rfl := hc
        cases hbody : tagBody? more with
        | none => exact bracket n more hbody (ih _ hshorter more rfl)
        | some found =>
          have hrest : found.2.length < length := (tagBody?_length hbody).trans hshorter
          exact tag n more found.1 found.2 hbody (ih _ hrest found.2 rfl)
      · exact char n c more (by simpa using hafter) hc (ih _ hshorter more rfl)

end ScriptProfiling
