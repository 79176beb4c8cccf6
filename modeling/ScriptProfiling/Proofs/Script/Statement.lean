import ScriptProfiling.Proofs.Script.Keyword
import Mathlib.Order.WellFounded

/-!
# Wait statements

A statement is told by its parts: the keyword, blanks, digits, a gap, and a unit behind which
no word goes on. The reader tries one start after the other and finds the leftmost statement,
whatever has failed before it.
-/
namespace ScriptProfiling
namespace Line

theorem startsWord_iff {before : Option Char} :
    startsWord before = true ↔ ∀ c ∈ before, isWord c = false := by
  cases before <;> simp [startsWord]

section Units

variable {name other : String} {cs unit found after rest : List Char}

/-- Text that spells a unit of time, with the plural ending or without it. -/
def SpellsUnit (name : String) (cs : List Char) : Prop :=
  Spells name.toList cs ∨ Spells (name.toList ++ ['s']) cs

instance (name : String) (cs : List Char) : Decidable (SpellsUnit name cs) :=
  inferInstanceAs (Decidable (_ ∨ _))

theorem isLower_of_waitUnits (hname : name ∈ waitUnits) :
    ∀ letter ∈ name.toList ++ ['s'], letter.isLower = true := by
  have hsmall : (waitUnits.all fun name => (name.toList ++ ['s']).all Char.isLower) = true := by
    decide
  exact List.all_eq_true.mp (List.all_eq_true.mp hsmall name hname)

theorem isLetterLike_of_spellsUnit (h : SpellsUnit name unit) (hname : name ∈ waitUnits) :
    ∀ c ∈ unit, isLetterLike c = true := by
  have hsmall := isLower_of_waitUnits hname
  rcases h with h | h
  · exact h.isLetterLike fun letter hletter => hsmall letter (List.mem_append_left _ hletter)
  · exact h.isLetterLike hsmall

theorem isWord_of_plural {c : Char} (h : isLetter 's' c = true) : isWord c = true := by
  have hlike := isLetterLike_of_isLetter h (by decide)
  simp only [isLetterLike, Bool.and_eq_true] at hlike
  exact hlike.1.1

theorem exists_cons_of_spellsUnit (h : SpellsUnit name unit) (hname : name ∈ waitUnits) :
    ∃ letter c more, name.toList.head? = some letter ∧ unit = c :: more ∧
      isLetter letter c = true := by
  have hne : ∀ name ∈ waitUnits, name.toList ≠ [] := by decide
  obtain ⟨letter, word, hword⟩ := List.exists_cons_of_ne_nil (hne name hname)
  rw [SpellsUnit, hword] at h
  rcases h with h | h <;> cases h with
  | cons hletter _ => exact ⟨letter, _, _, by rw [hword, List.head?_cons], rfl, hletter⟩

/-- The units are told apart by their first letters. -/
theorem name_eq_of_spellsUnit (h : SpellsUnit name unit) (hfound : SpellsUnit other found)
    (hname : name ∈ waitUnits) (hother : other ∈ waitUnits)
    (hcs : unit ++ after = found ++ rest) : name = other := by
  have hheads : ∀ name ∈ waitUnits, ∀ other ∈ waitUnits,
      name.toList.head? = other.toList.head? → name = other := by decide
  have hsmall : ∀ name ∈ waitUnits, ∀ letter, name.toList.head? = some letter →
      letter.isLower = true := fun name hname letter hletter =>
    isLower_of_waitUnits hname letter (List.mem_append_left _ (List.mem_of_head? hletter))
  obtain ⟨letter, c, more, hletter, rfl, hform⟩ := exists_cons_of_spellsUnit h hname
  obtain ⟨letter', c', more', hletter', rfl, hform'⟩ := exists_cons_of_spellsUnit hfound hother
  obtain ⟨rfl, -⟩ := List.cons.inj hcs
  have hsame := eq_of_isLetter hform hform' (hsmall name hname letter hletter)
    (hsmall other hother letter' hletter')
  exact hheads name hname other hother (by rw [hletter, hletter', hsame])

theorem not_plural_of_stops {word : List Char} (h : Spells word unit)
    (hfound : Spells (word ++ ['s']) found) (hafter : Stops isWord after) :
    unit ++ after ≠ found ++ rest := by
  obtain ⟨head, c, rfl, hhead, hplural⟩ := spells_concat.mp hfound
  intro hcs
  rw [List.append_assoc] at hcs
  obtain ⟨-, rfl⟩ := List.append_inj hcs (h.length_eq.symm.trans hhead.length_eq)
  have hnot := stops_cons.mp hafter
  rw [isWord_of_plural hplural] at hnot
  cases hnot

theorem unit_unique (h : SpellsUnit name unit) (hfound : SpellsUnit other found)
    (hname : name ∈ waitUnits) (hother : other ∈ waitUnits) (hafter : Stops isWord after)
    (hrest : Stops isWord rest) (hcs : unit ++ after = found ++ rest) : unit = found := by
  obtain rfl := name_eq_of_spellsUnit h hfound hname hother hcs
  rcases h with h | h <;> rcases hfound with hfound | hfound
  · exact (List.append_inj hcs (h.length_eq.symm.trans hfound.length_eq)).1
  · exact absurd hcs (not_plural_of_stops h hfound hafter)
  · exact absurd hcs.symm (not_plural_of_stops hfound h hrest)
  · exact (List.append_inj hcs (h.length_eq.symm.trans hfound.length_eq)).1

theorem exists_of_unitAt? (h : unitAt? cs = some unit) :
    ∃ after, cs = unit ++ after ∧ (∃ name ∈ waitUnits, SpellsUnit name unit) ∧
      Stops isWord after := by
  obtain ⟨name, hname, h⟩ := List.exists_of_findSome?_eq_some h
  split at h
  · cases h
  · next rest hrest =>
    obtain ⟨head, rfl, hhead⟩ := afterWord?_eq_some.mp hrest
    -- the text is cut behind `front`, which has the plural ending or not
    have hcut : ∀ front back, head ++ rest = front ++ back → SpellsUnit name front →
        (if startsWord back.head? = true then
          some ((head ++ rest).take ((head ++ rest).length - back.length)) else none) = some unit →
        ∃ after, head ++ rest = unit ++ after ∧ (∃ name ∈ waitUnits, SpellsUnit name unit) ∧
          Stops isWord after := by
      intro front back heq hfront hunit
      rw [heq, List.length_append, Nat.add_sub_cancel, List.take_left] at hunit
      split at hunit
      · next hends =>
        obtain rfl := Option.some.inj hunit
        exact ⟨back, heq, ⟨name, hname, hfront⟩, startsWord_iff.mp hends⟩
      · cases hunit
    cases rest with
    | nil => exact hcut head [] rfl (Or.inl hhead) h
    | cons c more =>
      dsimp only at h
      split at h
      · next hplural =>
        exact hcut (head ++ [c]) more (List.append_cons ..)
          (Or.inr (spells_concat.mpr ⟨head, c, rfl, hhead, hplural⟩)) h
      · exact hcut head (c :: more) rfl (Or.inl hhead) h

theorem unitAt?_ne_none (hname : name ∈ waitUnits) (hunit : SpellsUnit name unit)
    (hafter : Stops isWord after) : unitAt? (unit ++ after) ≠ none := by
  intro h
  have hnone := List.findSome?_eq_none_iff.mp h name hname
  have hends : startsWord after.head? = true := startsWord_iff.mpr hafter
  rcases hunit with hunit | hunit
  · rw [afterWord?_eq_some.mpr ⟨unit, rfl, hunit⟩] at hnone
    cases after with
    | nil => simp [startsWord] at hnone
    | cons c more =>
      have hsingular : isLetter 's' c = false := by
        cases hplural : isLetter 's' c with
        | false => rfl
        | true => exact (isWord_of_plural hplural).symm.trans (stops_cons.mp hafter)
      rw [List.head?_cons] at hends
      simp [hsingular, hends] at hnone
  · obtain ⟨head, c, rfl, hhead, hplural⟩ := spells_concat.mp hunit
    rw [afterWord?_eq_some.mpr ⟨head, List.append_assoc .., hhead⟩] at hnone
    simp [hplural, hends] at hnone

theorem unitAt?_eq_some_iff : unitAt? cs = some unit ↔
    ∃ after, cs = unit ++ after ∧ (∃ name ∈ waitUnits, SpellsUnit name unit) ∧
      Stops isWord after := by
  constructor
  · exact exists_of_unitAt?
  · rintro ⟨after, rfl, ⟨name, hname, hunit⟩, hafter⟩
    obtain ⟨found, hfound⟩ := Option.ne_none_iff_exists'.mp (unitAt?_ne_none hname hunit hafter)
    obtain ⟨rest, hcs, ⟨other, hother, hspells⟩, hrest⟩ := exists_of_unitAt? hfound
    rw [hfound, unit_unique hunit hspells hname hother hafter hrest hcs]

end Units

/-- A wait statement at the head of a text, told by its parts. -/
structure Wording (cs : List Char) where
  word : List Char
  blanks : List Char
  digits : List Char
  gap : List Char
  unit : List Char
  after : List Char
  text : cs = word ++ (blanks ++ (digits ++ (gap ++ (unit ++ after))))
  spells_word : Spells "wait".toList word
  blanks_ne_nil : blanks ≠ []
  isBlank_blanks : ∀ c ∈ blanks, isBlank c = true
  digits_ne_nil : digits ≠ []
  isDigit_digits : ∀ c ∈ digits, isDigit c = true
  isBlank_gap : ∀ c ∈ gap, isBlank c = true
  spells_unit : ∃ name ∈ waitUnits, SpellsUnit name unit
  /-- No word goes on behind the unit. -/
  stops : Stops isWord after

namespace Wording

variable {cs : List Char}

theorem ne_nil (w : Wording cs) : cs ≠ [] := by
  intro h
  obtain ⟨c, more, hblanks⟩ := List.exists_cons_of_ne_nil w.blanks_ne_nil
  have htext := h.symm.trans w.text
  rw [hblanks] at htext
  simp at htext

variable (w : Wording cs)

/-- What is taken over of a statement. -/
def raw : RawWait := ⟨w.digits, w.unit⟩

theorem isLetterLike_unit : ∀ c ∈ w.unit, isLetterLike c = true := by
  obtain ⟨name, hname, hunit⟩ := w.spells_unit
  exact isLetterLike_of_spellsUnit hunit hname

theorem unit_ne_nil : w.unit ≠ [] := by
  obtain ⟨name, hname, hunit⟩ := w.spells_unit
  obtain ⟨letter, c, more, -, hcs, -⟩ := exists_cons_of_spellsUnit hunit hname
  simp [hcs]

theorem stops_isBlank_unit : Stops isBlank (w.unit ++ w.after) := by
  obtain ⟨c, more, hcs⟩ := List.exists_cons_of_ne_nil w.unit_ne_nil
  have hlike := w.isLetterLike_unit c (by simp [hcs])
  simp only [isLetterLike, Bool.and_eq_true, Bool.not_eq_true'] at hlike
  rw [hcs]
  exact stops_cons.mpr hlike.1.2

theorem stops_isBlank_digits : Stops isBlank (w.digits ++ (w.gap ++ (w.unit ++ w.after))) := by
  obtain ⟨c, more, hcs⟩ := List.exists_cons_of_ne_nil w.digits_ne_nil
  rw [hcs]
  exact stops_cons.mpr (isBlank_of_isDigit (w.isDigit_digits c (by simp [hcs])))

/-- The digits of a statement are a whole run. -/
theorem stops_isDigit_gap : Stops isDigit (w.gap ++ (w.unit ++ w.after)) := by
  refine Stops.append (stops_of_forall fun c hc => ?_) ?_
  · cases hdigit : isDigit c with
    | false => rfl
    | true => exact absurd (w.isBlank_gap c hc) (by simp [isBlank_of_isDigit hdigit])
  · obtain ⟨c, more, hcs⟩ := List.exists_cons_of_ne_nil w.unit_ne_nil
    have hlike := w.isLetterLike_unit c (by simp [hcs])
    simp only [isLetterLike, Bool.and_eq_true, Bool.not_eq_true'] at hlike
    rw [hcs]
    exact stops_cons.mpr hlike.2

end Wording

section Statements

variable {cs line front : List Char} {raw : RawWait}

theorem exists_wording_of_waitAt? (h : waitAt? cs = some raw) : ∃ w : Wording cs, w.raw = raw := by
  unfold waitAt? at h
  split at h
  · cases h
  · next rest hrest =>
    obtain ⟨word, blanks, rfl, hword, hne, hblanks, -⟩ := afterKeyword?_eq_some.mp hrest
    dsimp only at h
    split at h
    · cases h
    · next hdigits =>
      obtain ⟨unit, hunit, rfl⟩ := Option.map_eq_some_iff.mp h
      rw [drop_length_takeWhile] at hunit
      obtain ⟨after, hcs, hspells, hstops⟩ := unitAt?_eq_some_iff.mp hunit
      refine ⟨⟨word, blanks, rest.takeWhile isDigit, (rest.dropWhile isDigit).takeWhile isBlank,
        unit, after, ?_, hword, hne, hblanks, by simpa using hdigits, ?_, ?_, hspells, hstops⟩, rfl⟩
      · rw [← hcs, dropBlanks, List.takeWhile_append_dropWhile, List.takeWhile_append_dropWhile]
      · exact fun c hc => List.mem_takeWhile_imp hc
      · exact fun c hc => List.mem_takeWhile_imp hc

theorem waitAt?_eq_some_iff : waitAt? cs = some raw ↔ ∃ w : Wording cs, w.raw = raw := by
  constructor
  · exact exists_wording_of_waitAt?
  · rintro ⟨w, rfl⟩
    have hkeyword : afterKeyword? "wait" cs = some (w.digits ++ (w.gap ++ (w.unit ++ w.after))) :=
      afterKeyword?_eq_some.mpr ⟨w.word, w.blanks, w.text, w.spells_word, w.blanks_ne_nil,
        w.isBlank_blanks, w.stops_isBlank_digits⟩
    have hdigits := takeWhile_append_of_stops w.isDigit_digits w.stops_isDigit_gap
    have hunit : unitAt? (w.unit ++ w.after) = some w.unit :=
      unitAt?_eq_some_iff.mpr ⟨w.after, rfl, w.spells_unit, w.stops⟩
    have hgap : dropBlanks (w.gap ++ (w.unit ++ w.after)) = w.unit ++ w.after :=
      dropWhile_append_of_stops w.isBlank_gap w.stops_isBlank_unit
    rw [waitAt?, hkeyword]
    dsimp only
    rw [hdigits, if_neg (by simpa using w.digits_ne_nil), List.drop_left, hgap, hunit]
    rfl

/-- A wait statement somewhere in a line, where no word goes on before it. -/
structure Statement (line : List Char) where
  before : List Char
  rest : List Char
  text : line = before ++ rest
  free : ∀ c ∈ before.getLast?, isWord c = false
  wording : Wording rest

/-- No statement of the line starts further left. -/
def Statement.Leftmost (s : Statement line) : Prop :=
  ∀ other : Statement line, s.before.length ≤ other.before.length

theorem Statement.exists_leftmost (s : Statement line) : ∃ first : Statement line, first.Leftmost :=
  have : Nonempty (Statement line) := ⟨s⟩
  ⟨Function.argmin fun s : Statement line => s.before.length, fun other =>
    Function.argmin_le (fun s : Statement line => s.before.length) other⟩

theorem Statement.length_le (s : Statement line) (hline : line = front ++ cs)
    (hfront : ∀ c ∈ front, isLetter 'w' c = false) : front.length ≤ s.before.length := by
  obtain ⟨before, rest, htext, -, w⟩ := s
  obtain ⟨c, more, hletter, hword⟩ : ∃ c more, isLetter 'w' c = true ∧ w.word = c :: more := by
    obtain ⟨c, more, hletter, -, hword⟩ := List.forall₂_cons_left_iff.mp w.spells_word
    exact ⟨c, more, hletter, hword⟩
  have hrest := w.text
  rw [hword, List.cons_append] at hrest
  by_contra hlt
  have hat : (front ++ cs)[before.length]? = some c := by
    rw [← hline, htext, hrest]
    simp
  rw [List.getElem?_append_left (by simpa using hlt)] at hat
  have hnot := hfront c (List.mem_of_getElem? hat)
  rw [hletter] at hnot
  cases hnot

theorem waitHere_eq_some_iff (hline : line = front ++ cs) :
    (if startsWord front.getLast? then waitAt? cs else none) = some raw ↔
      ∃ s : Statement line, s.before.length = front.length ∧ s.wording.raw = raw := by
  constructor
  · intro h
    split at h
    · next hfree =>
      obtain ⟨w, rfl⟩ := waitAt?_eq_some_iff.mp h
      exact ⟨⟨front, cs, hline, startsWord_iff.mp hfree, w⟩, rfl, rfl⟩
    · cases h
  · rintro ⟨s, hlength, rfl⟩
    obtain ⟨before, rest, htext, hfree, w⟩ := s
    obtain ⟨rfl, rfl⟩ := List.append_inj (htext.symm.trans hline) hlength
    rw [if_pos (startsWord_iff.mpr hfree)]
    exact waitAt?_eq_some_iff.mpr ⟨w, rfl⟩

/-- From some start on the reader finds the first statement. The induction is on what is left of
the line, and a start at which nothing stands is passed over. -/
theorem waitAfter?_eq_some_iff (hline : line = front ++ cs) :
    waitAfter? front.getLast? cs = some raw ↔
      ∃ s : Statement line, front.length ≤ s.before.length ∧ s.wording.raw = raw ∧
        ∀ other : Statement line, front.length ≤ other.before.length →
          s.before.length ≤ other.before.length := by
  induction cs generalizing front with
  | nil =>
    refine iff_of_false (fun h => by cases h) ?_
    rintro ⟨s, hle, -⟩
    apply s.wording.ne_nil
    have hlength := congrArg List.length (s.text.symm.trans hline)
    simp only [List.length_append, List.length_nil] at hlength
    exact List.eq_nil_of_length_eq_zero (by omega)
  | cons c cs ih =>
    have hlast : (front ++ [c]).getLast? = some c := List.getLast?_concat
    have hsplit : line = (front ++ [c]) ++ cs := by simpa using hline
    have hnext := ih hsplit
    rw [hlast] at hnext
    rw [waitAfter?]
    split
    · next wait hwait =>
      obtain ⟨s, hlength, hraw⟩ := (waitHere_eq_some_iff hline).mp hwait
      constructor
      · intro h
        obtain rfl := Option.some.inj h
        exact ⟨s, hlength.ge, hraw, fun other hother => hlength.le.trans hother⟩
      · rintro ⟨first, hle, hfirst, hleast⟩
        have hat : first.before.length = front.length :=
          le_antisymm ((hleast s hlength.ge).trans hlength.le) hle
        rw [← hwait]
        exact (waitHere_eq_some_iff hline).mpr ⟨first, hat, hfirst⟩
    · next hnone =>
      have hpassed : ∀ s : Statement line,
          front.length ≤ s.before.length ↔ (front ++ [c]).length ≤ s.before.length := by
        intro s
        have hne : s.before.length ≠ front.length := by
          intro hlength
          rw [(waitHere_eq_some_iff hline).mpr ⟨s, hlength, rfl⟩] at hnone
          cases hnone
        rw [List.length_append, List.length_singleton]
        omega
      simp only [hpassed]
      exact hnext

theorem wait?_eq_some_iff :
    wait? line = some raw ↔ ∃ s : Statement line, s.Leftmost ∧ s.wording.raw = raw := by
  have hline : line = [] ++ line := rfl
  refine (waitAfter?_eq_some_iff hline).trans ?_
  constructor
  · rintro ⟨s, -, hraw, hleast⟩
    exact ⟨s, fun other => hleast other (Nat.zero_le _), hraw⟩
  · rintro ⟨s, hleast, hraw⟩
    exact ⟨s, Nat.zero_le _, hraw, fun other _ => hleast other⟩

theorem isSome_wait?_iff : (wait? line).isSome = true ↔ Nonempty (Statement line) := by
  rw [Option.isSome_iff_exists]
  constructor
  · rintro ⟨raw, hraw⟩
    obtain ⟨s, -, -⟩ := wait?_eq_some_iff.mp hraw
    exact ⟨s⟩
  · rintro ⟨s⟩
    obtain ⟨first, hfirst⟩ := s.exists_leftmost
    exact ⟨_, wait?_eq_some_iff.mpr ⟨first, hfirst, rfl⟩⟩

instance (line : List Char) : Decidable (Nonempty (Statement line)) :=
  decidable_of_iff _ isSome_wait?_iff

end Statements
end Line
end ScriptProfiling
