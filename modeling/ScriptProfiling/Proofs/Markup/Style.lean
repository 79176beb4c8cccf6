import ScriptProfiling.Markup.Style
import ScriptProfiling.Proofs.Partial

/-!
# What can be wrong with a style name

Any text may stand where a style is named; what describes no style stands for itself. The
one fault is a colour in numbers one of which is missing, and it is none of the markup.

So a tag that describes nothing is opened and closed like others, and no text from outside makes
reading a style fail with a fault of the markup.
-/
namespace ScriptProfiling

/-- If there is a fault, it is that of a value. -/
def Unreadable {α : Type} (x : Except Fault α) : Prop := ∀ f, x = .error f → f.cls = .badValue

namespace Unreadable

variable {α β : Type}

theorem ok (a : α) : Unreadable (.ok a) := nofun

theorem bind {x : Except Fault α} {f : α → Except Fault β} (hx : Unreadable x)
    (hf : ∀ a, Unreadable (f a)) : Unreadable (x >>= f) := by
  cases x with
  | error e => exact fun g hg => hx g (congrArg Except.error (Except.error.inj hg))
  | ok a => exact hf a

theorem mapM {f : α → Except Fault β} (hf : ∀ a, Unreadable (f a)) (xs : List α) :
    Unreadable (xs.mapM f) := by
  induction xs with
  | nil => exact ok []
  | cons x xs ih =>
    rw [List.mapM_cons]
    exact (hf x).bind fun y => ih.bind fun ys => ok (y :: ys)

end Unreadable

theorem unreadable_parseWhole (s : String) : Unreadable (parseWhole s) := by
  intro f hf
  unfold parseWhole wholeOf at hf
  split at hf
  · rw [← Except.error.inj hf]; rfl
  · rw [← Except.error.inj hf]; rfl
  · cases hf

namespace Style

theorem unreadable_isTriplet (cs : List Char) : Unreadable (isTriplet cs) := by
  unfold isTriplet
  split
  · exact (Unreadable.mapM (fun part => unreadable_parseWhole _) _).bind fun ns => Unreadable.ok _
  · exact Unreadable.ok _

theorem unreadable_isColor (word : String) : Unreadable (isColor word) := by
  unfold isColor
  dsimp only
  split
  · exact Unreadable.ok _
  · split
    · exact Unreadable.ok _
    · split
      · exact Unreadable.ok _
      · split
        · exact unreadable_isTriplet _
        · exact Unreadable.ok _
      · exact Unreadable.ok _

theorem unreadable_readWords (p : Parts) (words : List String) :
    Unreadable (readWords p words) := by
  induction hlength : words.length using Nat.strongRecOn generalizing p words with
  | _ length ih =>
    have hrest : ∀ q rest, rest.length < words.length → Unreadable (readWords q rest) :=
      fun q rest h => ih rest.length (hlength ▸ h) q rest rfl
    have hcolor : ∀ (word : String) (q : Parts) (rest : List String), rest.length < words.length →
        Unreadable (do if ← isColor word then readWords q rest else return .none) := by
      intro word q rest h
      refine (unreadable_isColor word).bind fun isOne => ?_
      cases isOne with
      | true => exact hrest q rest h
      | false => exact Unreadable.ok _
    unfold readWords
    split
    · exact Unreadable.ok _
    · next original rest =>
      simp only [List.length_cons] at hrest hcolor
      dsimp only
      split
      · split
        · exact Unreadable.ok _
        · exact hcolor _ _ _ (by simp only [List.length_cons]; omega)
      · split
        · split
          · exact Unreadable.ok _
          · split
            · exact hrest _ _ (by simp only [List.length_cons]; omega)
            · exact Unreadable.ok _
        · split
          · split
            · exact Unreadable.ok _
            · exact hrest _ _ (by simp only [List.length_cons]; omega)
          · split
            · exact hrest _ _ (by omega)
            · exact hcolor _ _ _ (by omega)

theorem unreadable_normalName (cs : List Char) : Unreadable (normalName cs) := by
  unfold normalName
  split
  · exact Unreadable.ok _
  · refine (unreadable_readWords _ _).bind fun parts => ?_
    cases parts <;> exact Unreadable.ok _

end Style
end ScriptProfiling
