import ScriptProfiling.Proofs.Markup.Template
import ScriptProfiling.Proofs.Number.Numeral

/-!
# Numbers in markup

However a number is written, its text is tame: digits, signs, points and the names of what
is no number.

That holds of whole numbers and of decimals, with or without a limit on their digits, so the lines
of figures in a report need no escape.
-/
namespace ScriptProfiling

theorem isTame_of_isDigit {c : Char} (h : c.isDigit = true) : isTame c = true := by
  have hne : ∀ d : Char, d.isDigit = false → c ≠ d := by
    rintro d hd rfl
    rw [h] at hd
    cases hd
  simp [isTame, isQuiet, isBracket, isBackslash, hne '[' rfl, hne ']' rfl, hne '\\' rfl,
    hne '\n' rfl]

theorem isQuiet_of_isDigit {c : Char} (h : c.isDigit = true) : isQuiet c = true :=
  (Bool.and_eq_true_iff.mp (isTame_of_isDigit h)).1

theorem tame_numeral (n : Nat) : Tame (numeral n) :=
  fun _ hc => isTame_of_isDigit (isDigit_of_mem_numeral hc)

theorem tame_paddedNumeral (width n : Nat) : Tame (paddedNumeral width n) :=
  List.forall_mem_append.mpr ⟨tame_replicate rfl _, tame_numeral n⟩

theorem tame_withSign {cs : List Char} (h : Tame cs) (negative : Bool) :
    Tame (Binary64.withSign negative cs).toList := by
  rw [Binary64.withSign, String.toList_ofList]
  split
  · exact List.forall_mem_cons.mpr ⟨rfl, h⟩
  · exact h

theorem mem_wholeText {n : Int} {c : Char} (h : c ∈ (wholeText n).toList) :
    c = '-' ∨ c.isDigit = true := by
  rw [wholeText, String.toList_ofList] at h
  split at h
  · exact (List.mem_cons.mp h).imp_right isDigit_of_mem_numeral
  · exact Or.inr (isDigit_of_mem_numeral h)

@[simp] theorem tame_wholeText (n : Int) : Tame (wholeText n).toList := by
  intro c hc
  rcases mem_wholeText hc with rfl | hdigit
  · rfl
  · exact isTame_of_isDigit hdigit

@[simp] theorem quiet_wholeText (n : Int) : Quiet (wholeText n).toList := (tame_wholeText n).quiet

theorem exists_getLast?_wholeText (n : Int) :
    ∃ c, (wholeText n).toList.getLast? = some c ∧ c.isDigit = true := by
  have hne : numeral n.natAbs ≠ [] := Nat.toDigits_ne_nil
  have hlast := List.getLast?_eq_some_getLast hne
  refine ⟨_, ?_, isDigit_of_mem_numeral (List.getLast_mem hne)⟩
  rw [wholeText, String.toList_ofList]
  split
  · rw [List.getLast?_cons, hlast]
    rfl
  · exact hlast

theorem tame_wholeTextLimited {n : Int} {text : String} (h : wholeTextLimited n = .ok text) :
    Tame text.toList := by
  unfold wholeTextLimited at h
  split at h
  · obtain rfl := Except.ok.inj h
    exact tame_wholeText n
  · cases h

@[simp] theorem tame_fixedText (places : Nat) (x : Binary64) :
    Tame (x.fixedText places).toList := by
  unfold Binary64.fixedText
  split
  · decide
  · exact tame_withSign (by decide) _
  · refine tame_withSign (List.forall_mem_append.mpr ⟨tame_numeral _, ?_⟩) _
    split
    · exact nofun
    · exact List.forall_mem_cons.mpr ⟨rfl, tame_paddedNumeral _ _⟩

theorem tame_hundredths {x : Number} {text : String} (h : x.hundredths = .ok text) :
    Tame text.toList := by
  obtain ⟨y, -, h⟩ := bind_eq_ok.mp h
  obtain rfl := pure_eq_ok.mp h
  exact tame_fixedText 2 y

end ScriptProfiling
