import ScriptProfiling.Proofs.Script.Keyword
import Mathlib.Logic.IsEmpty.Basic

/-!
# Triggers of events

An event line can be split in several ways: a blank may stand before the trigger or begin it,
and any colon may end it. The reader finds the split with the most blanks and, among those
with as many, the one with the longest trigger.
-/
namespace ScriptProfiling
namespace Line

section Colons

variable {cs text other head tail : List Char}

/-- Text in one line before a colon, and not nothing. -/
structure EndsAtColon (cs text : List Char) : Prop where
  ne_nil : text ≠ []
  oneLine : '\n' ∉ text
  colon : text ++ [':'] <+: cs

theorem isPrefix_takeWhile (hline : '\n' ∉ text) :
    text ++ [':'] <+: cs ↔ text ++ [':'] <+: cs.takeWhile (· != '\n') := by
  constructor
  · rintro ⟨rest, rfl⟩
    have hall : ∀ c ∈ text ++ [':'], (c != '\n') = true := by
      intro c hc
      rw [bne_iff_ne]
      rintro rfl
      rcases List.mem_append.mp hc with hc | hc
      · exact hline hc
      · exact absurd (List.mem_singleton.mp hc) (by decide)
    rw [List.takeWhile_append_of_pos hall]
    exact List.prefix_append _ _
  · intro h
    exact h.trans (List.takeWhile_prefix _)

theorem notMem_of_reach (h : cs.takeWhile (· != '\n') = head ++ tail) : '\n' ∉ head := by
  intro hmem
  have hreached : '\n' ∈ cs.takeWhile (· != '\n') := by
    rw [h]
    exact List.mem_append_left _ hmem
  simpa using List.mem_takeWhile_imp hreached

theorem exists_last_colon (h : ':' ∈ cs) : ∃ head tail, cs = head ++ ':' :: tail ∧ ':' ∉ tail := by
  obtain ⟨tail, head, hreverse, htail⟩ := List.eq_append_cons_of_mem (List.mem_reverse.mpr h)
  refine ⟨head.reverse, tail.reverse, ?_, by simpa using htail⟩
  simpa using congrArg List.reverse hreverse

theorem beforeLastColon_of_notMem (h : ':' ∉ cs.takeWhile (· != '\n')) :
    beforeLastColon cs = none := by
  have hnone : (cs.takeWhile (· != '\n')).reverse.dropWhile (· != ':') = [] := by
    rw [List.dropWhile_eq_nil_iff]
    intro c hc
    rw [bne_iff_ne]
    rintro rfl
    exact h (List.mem_reverse.mp hc)
  rw [beforeLastColon, hnone]
  rfl

theorem beforeLastColon_of_reach (h : cs.takeWhile (· != '\n') = head ++ ':' :: tail)
    (htail : ':' ∉ tail) : beforeLastColon cs = if head.isEmpty then none else some head := by
  have hrun : ∀ c ∈ tail.reverse, (c != ':') = true := by
    intro c hc
    rw [bne_iff_ne]
    rintro rfl
    exact htail (List.mem_reverse.mp hc)
  have hstop : Stops (· != ':') (':' :: head.reverse) := stops_cons.mpr (by decide)
  have hcut : (cs.takeWhile (· != '\n')).reverse.dropWhile (· != ':') = ':' :: head.reverse := by
    rw [h, List.reverse_append, List.reverse_cons, List.append_assoc, List.singleton_append]
    exact dropWhile_append_of_stops hrun hstop
  rw [beforeLastColon, hcut]
  simp

/-- Behind the last colon no text ends at one. -/
theorem length_le_of_notMem (htail : ':' ∉ tail) (h : other ++ [':'] <+: head ++ ':' :: tail) :
    other.length ≤ head.length := by
  by_contra hlt
  obtain ⟨rest, hrest⟩ := h
  have hat : (head ++ ':' :: tail)[other.length]? = some ':' := by
    rw [← hrest]
    simp
  rw [List.getElem?_append_right (by omega), List.getElem?_cons, if_neg (by omega)] at hat
  exact htail (List.mem_of_getElem? hat)

theorem beforeLastColon_cases (cs : List Char) :
    (beforeLastColon cs = none ∧ ∀ text, ¬ EndsAtColon cs text) ∨
      ∃ text, beforeLastColon cs = some text ∧ EndsAtColon cs text ∧
        ∀ other, EndsAtColon cs other → other.length ≤ text.length := by
  by_cases hcolon : ':' ∈ cs.takeWhile (· != '\n')
  · obtain ⟨head, tail, hreach, htail⟩ := exists_last_colon hcolon
    have hlongest : ∀ other, EndsAtColon cs other → other.length ≤ head.length := by
      intro other hother
      have hat := (isPrefix_takeWhile hother.oneLine).mp hother.colon
      rw [hreach] at hat
      exact length_le_of_notMem htail hat
    rw [beforeLastColon_of_reach hreach htail]
    cases head with
    | nil =>
      refine Or.inl ⟨rfl, fun text htext => htext.ne_nil ?_⟩
      exact List.eq_nil_of_length_eq_zero (Nat.le_zero.mp (hlongest text htext))
    | cons c head =>
      have hline : '\n' ∉ c :: head := notMem_of_reach hreach
      refine Or.inr ⟨_, rfl, ⟨by simp, hline, (isPrefix_takeWhile hline).mpr ?_⟩, hlongest⟩
      rw [hreach]
      simp
  · refine Or.inl ⟨beforeLastColon_of_notMem hcolon, fun text htext => hcolon ?_⟩
    have hat := (isPrefix_takeWhile htext.oneLine).mp htext.colon
    exact hat.subset (by simp)

theorem beforeLastColon_ne_none (h : EndsAtColon cs text) : beforeLastColon cs ≠ none := by
  rcases beforeLastColon_cases cs with ⟨-, hnone⟩ | ⟨read, hread, -⟩
  · exact absurd h (hnone text)
  · simp [hread]

theorem endsAtColon_of_read (h : beforeLastColon cs = some text) :
    EndsAtColon cs text ∧ ∀ other, EndsAtColon cs other → other.length ≤ text.length := by
  rcases beforeLastColon_cases cs with ⟨hnone, -⟩ | ⟨read, hread, hends⟩
  · cases h.symm.trans hnone
  · obtain rfl := Option.some.inj (h.symm.trans hread)
    exact hends

/-- The reader gives back one blank after the other, and stops at the first place behind which
something ends at a colon. -/
theorem triggerAfter_cases (blanks : Nat) (cs : List Char) :
    (triggerAfter blanks cs = none ∧
      ∀ k, 0 < k → k ≤ blanks → beforeLastColon (cs.drop k) = none) ∨
    ∃ k text, 0 < k ∧ k ≤ blanks ∧ triggerAfter blanks cs = some text ∧
      beforeLastColon (cs.drop k) = some text ∧
      ∀ j, k < j → j ≤ blanks → beforeLastColon (cs.drop j) = none := by
  induction blanks with
  | zero => exact Or.inl ⟨rfl, fun k hpos hle => by omega⟩
  | succ blanks ih =>
    rw [triggerAfter]
    cases hhere : beforeLastColon (cs.drop (blanks + 1)) with
    | some text =>
      refine Or.inr ⟨blanks + 1, text, by omega, le_rfl, rfl, hhere, fun j hlt hle => by omega⟩
    | none =>
      have hlast : ∀ j, ¬ j ≤ blanks → j ≤ blanks + 1 → beforeLastColon (cs.drop j) = none := by
        intro j hlt hle
        obtain rfl : j = blanks + 1 := by omega
        exact hhere
      rcases ih with ⟨hnone, hall⟩ | ⟨k, text, hpos, hle, htext, hat, hall⟩
      · refine Or.inl ⟨hnone, fun k hpos hle => ?_⟩
        by_cases hk : k ≤ blanks
        · exact hall k hpos hk
        · exact hlast k hk hle
      · refine Or.inr ⟨k, text, hpos, by omega, htext, hat, fun j hlt hle => ?_⟩
        by_cases hj : j ≤ blanks
        · exact hall j hlt hj
        · exact hlast j hj hle

end Colons

/-- A split of a line as an event: the keyword between blanks, then a trigger up to a colon. -/
structure Opening (line : List Char) where
  indent : List Char
  word : List Char
  blanks : List Char
  trigger : List Char
  rest : List Char
  text : line = indent ++ (word ++ (blanks ++ (trigger ++ ':' :: rest)))
  isBlank_indent : ∀ c ∈ indent, isBlank c = true
  spells_word : Spells "on".toList word
  blanks_ne_nil : blanks ≠ []
  isBlank_blanks : ∀ c ∈ blanks, isBlank c = true
  trigger_ne_nil : trigger ≠ []
  oneLine : '\n' ∉ trigger

namespace Opening

variable {line : List Char} (o : Opening line)

/-- More blanks before the trigger, or as many of them and a trigger that is as long. -/
def Covers (o other : Opening line) : Prop :=
  other.blanks.length < o.blanks.length ∨
    (other.blanks.length = o.blanks.length ∧ other.trigger.length ≤ o.trigger.length)

/-- The split with the most blanks and, among those, the longest trigger. -/
def Greatest : Prop := ∀ other : Opening line, o.Covers other

/-- What follows the keyword. -/
def behind : List Char := o.blanks ++ (o.trigger ++ ':' :: o.rest)

theorem dropBlanks_eq : dropBlanks line = o.word ++ o.behind := by
  have hstops : Stops isBlank (o.word ++ o.behind) := by
    obtain ⟨c, more, hletter, -, hword⟩ := List.forall₂_cons_left_iff.mp o.spells_word
    have hlike := isLetterLike_of_isLetter hletter (by decide)
    simp only [isLetterLike, Bool.and_eq_true, Bool.not_eq_true'] at hlike
    rw [hword]
    exact stops_cons.mpr hlike.1.2
  calc dropBlanks line = dropBlanks (o.indent ++ (o.word ++ o.behind)) := congrArg dropBlanks o.text
    _ = o.word ++ o.behind := dropWhile_append_of_stops o.isBlank_indent hstops

theorem afterWord?_eq : afterWord? "on".toList (dropBlanks line) = some o.behind := by
  rw [o.dropBlanks_eq]
  exact afterWord?_eq_some.mpr ⟨o.word, rfl, o.spells_word⟩

/-- All splits of a line have the keyword at the same place. -/
theorem behind_eq (other : Opening line) : o.behind = other.behind :=
  Option.some.inj (o.afterWord?_eq.symm.trans other.afterWord?_eq)

theorem length_blanks_pos : 0 < o.blanks.length := List.length_pos_of_ne_nil o.blanks_ne_nil

theorem length_blanks_le : o.blanks.length ≤ (o.behind.takeWhile isBlank).length := by
  rw [behind, List.takeWhile_append_of_pos o.isBlank_blanks, List.length_append]
  omega

theorem endsAtColon : EndsAtColon (o.behind.drop o.blanks.length) o.trigger where
  ne_nil := o.trigger_ne_nil
  oneLine := o.oneLine
  colon := by
    rw [behind, List.drop_left]
    exact ⟨o.rest, by simp⟩

variable {o}

theorem Greatest.trigger_eq (h : o.Greatest) {other : Opening line} (hother : other.Greatest) :
    o.trigger = other.trigger := by
  have hlengths : o.blanks.length = other.blanks.length ∧
      o.trigger.length = other.trigger.length := by
    have hcovers := h other
    have hcovered := hother o
    unfold Covers at hcovers hcovered
    omega
  obtain ⟨-, hbehind⟩ := List.append_inj (o.behind_eq other) hlengths.1
  exact (List.append_inj hbehind hlengths.2).1

/-- The trigger goes up to the last colon of its line. -/
theorem Greatest.notMem_rest (h : o.Greatest) : ':' ∉ o.rest.takeWhile (· != '\n') := by
  intro hmem
  obtain ⟨more, rest, hrest, hline⟩ : ∃ more rest, o.rest = more ++ ':' :: rest ∧ '\n' ∉ more := by
    obtain ⟨more, rest, hreach⟩ := List.append_of_mem hmem
    refine ⟨more, rest ++ o.rest.dropWhile (· != '\n'), ?_, notMem_of_reach hreach⟩
    rw [← List.cons_append, ← List.append_assoc, ← hreach, List.takeWhile_append_dropWhile]
  have hcovers := h
    { o with
      trigger := o.trigger ++ ':' :: more
      rest := rest
      text := o.text.trans (by simp [hrest])
      trigger_ne_nil := by simp
      oneLine := by simp [o.oneLine, hline] }
  simp only [Covers, List.length_append, List.length_cons] at hcovers
  omega

end Opening

section Events

variable {line label : List Char}

theorem exists_opening {behind text : List Char} {blanks : Nat}
    (hword : afterWord? "on".toList (dropBlanks line) = some behind) (hpos : 0 < blanks)
    (hle : blanks ≤ (behind.takeWhile isBlank).length)
    (h : EndsAtColon (behind.drop blanks) text) :
    ∃ o : Opening line, o.blanks.length = blanks ∧ o.trigger = text := by
  obtain ⟨rest, hrest⟩ := h.colon
  obtain ⟨word, hline, hspells⟩ := afterWord?_eq_some.mp hword
  have htaken : behind.take blanks <+: behind.takeWhile isBlank := by
    apply List.prefix_of_prefix_length_le (List.take_prefix _ _) (List.takeWhile_prefix _)
    rw [List.length_take]
    omega
  have hlength : (behind.take blanks).length = blanks := by
    have hbound := (List.takeWhile_prefix (l := behind) isBlank).length_le
    rw [List.length_take]
    omega
  refine ⟨⟨line.takeWhile isBlank, word, behind.take blanks, text, rest, ?_,
    fun c hc => List.mem_takeWhile_imp hc, hspells, ?_,
    fun c hc => List.mem_takeWhile_imp (htaken.subset hc), h.ne_nil, h.oneLine⟩, hlength, rfl⟩
  · rw [← List.singleton_append, ← List.append_assoc text, hrest, List.take_append_drop, ← hline,
      dropBlanks, List.takeWhile_append_dropWhile]
  · rw [← List.length_pos_iff_ne_nil, hlength]
    exact hpos

theorem rawTrigger?_cases (line : List Char) :
    (rawTrigger? line = none ∧ IsEmpty (Opening line)) ∨
      ∃ o : Opening line, o.Greatest ∧ rawTrigger? line = some o.trigger := by
  cases hword : afterWord? "on".toList (dropBlanks line) with
  | none =>
    left
    constructor
    · rw [rawTrigger?, hword]
    · refine ⟨fun o => ?_⟩
      cases hword.symm.trans o.afterWord?_eq
  | some behind =>
    have hread : rawTrigger? line = triggerAfter (behind.takeWhile isBlank).length behind := by
      rw [rawTrigger?, hword]
    have hbehind : ∀ o : Opening line, o.blanks.length ≤ (behind.takeWhile isBlank).length ∧
        EndsAtColon (behind.drop o.blanks.length) o.trigger := by
      intro o
      obtain rfl := Option.some.inj (o.afterWord?_eq.symm.trans hword)
      exact ⟨o.length_blanks_le, o.endsAtColon⟩
    rcases triggerAfter_cases (behind.takeWhile isBlank).length behind with
      ⟨hnone, hall⟩ | ⟨k, text, hpos, hle, htext, hat, hall⟩
    · refine Or.inl ⟨hread.trans hnone, ⟨fun o => ?_⟩⟩
      exact beforeLastColon_ne_none (hbehind o).2 (hall _ o.length_blanks_pos (hbehind o).1)
    · obtain ⟨hends, hlongest⟩ := endsAtColon_of_read hat
      obtain ⟨o, hblanks, htrigger⟩ := exists_opening hword hpos hle hends
      refine Or.inr ⟨o, fun other => ?_, hread.trans (htrigger ▸ htext)⟩
      -- a split with more blanks would have been found first
      have hbound : other.blanks.length ≤ k := by
        by_contra hlt
        exact beforeLastColon_ne_none (hbehind other).2 (hall _ (by omega) (hbehind other).1)
      rcases Nat.lt_or_eq_of_le hbound with hlt | heq
      · exact Or.inl (by omega)
      · exact Or.inr ⟨by omega, htrigger ▸ hlongest _ (heq ▸ (hbehind other).2)⟩

theorem event?_eq_some_iff :
    event? line = some label ↔ ∃ o : Opening line, o.Greatest ∧ strip o.trigger = label := by
  rw [event?]
  rcases rawTrigger?_cases line with ⟨hnone, hempty⟩ | ⟨o, ho, hsome⟩
  · rw [hnone]
    exact iff_of_false (fun h => by cases h) fun h => hempty.false h.choose
  · rw [hsome, Option.map_some, Option.some.injEq]
    constructor
    · intro h
      exact ⟨o, ho, h⟩
    · rintro ⟨other, hother, rfl⟩
      rw [ho.trigger_eq hother]

theorem isSome_event?_iff : (event? line).isSome = true ↔ Nonempty (Opening line) := by
  rw [event?, Option.isSome_map]
  rcases rawTrigger?_cases line with ⟨hnone, hempty⟩ | ⟨o, -, hsome⟩
  · rw [hnone]
    exact iff_of_false (fun h => by cases h) (not_nonempty_iff.mpr hempty)
  · rw [hsome]
    exact iff_of_true rfl ⟨o⟩

instance (line : List Char) : Decidable (Nonempty (Opening line)) :=
  decidable_of_iff _ isSome_event?_iff

/-- Of several blanks before a colon the last one is the trigger, of which nothing is left. -/
theorem event?_of_blank {indent word gap : List Char} (hindent : ∀ c ∈ indent, isBlank c = true)
    (hword : Spells "on".toList word) (hgap : ∀ c ∈ gap, isBlank c = true) (htwo : 2 ≤ gap.length)
    (hlast : gap.getLast? ≠ some '\n') :
    event? (indent ++ (word ++ (gap ++ [':']))) = some [] := by
  obtain ⟨blanks, last, rfl⟩ : ∃ blanks last, gap = blanks ++ [last] := by
    rcases List.eq_nil_or_concat gap with rfl | ⟨blanks, last, rfl⟩
    · cases htwo
    · exact ⟨blanks, last, by rw [List.concat_eq_append]⟩
  let given : Opening (indent ++ (word ++ ((blanks ++ [last]) ++ [':']))) :=
    { indent, word, blanks
      trigger := [last]
      rest := []
      text := by simp
      isBlank_indent := hindent
      spells_word := hword
      blanks_ne_nil := by
        rintro rfl
        simp at htwo
      isBlank_blanks := fun c hc => hgap c (List.mem_append_left _ hc)
      trigger_ne_nil := by simp
      oneLine := by
        rw [List.mem_singleton]
        rintro rfl
        simp at hlast }
  rcases rawTrigger?_cases (indent ++ (word ++ ((blanks ++ [last]) ++ [':']))) with
    ⟨-, hempty⟩ | ⟨o, -, hread⟩
  · exact (hempty.false given).elim
  · have hbehind : o.blanks ++ (o.trigger ++ ':' :: o.rest) = blanks ++ ([last] ++ [':']) :=
      o.behind_eq given
    have hgiven : o.blanks ++ o.trigger <+: blanks ++ [last] := by
      have hlength := congrArg List.length hbehind
      simp only [List.length_append, List.length_cons, List.length_nil] at hlength
      have hwhole : o.blanks ++ o.trigger <+: blanks ++ ([last] ++ [':']) :=
        ⟨':' :: o.rest, by rw [List.append_assoc, hbehind]⟩
      have hgap : blanks ++ [last] <+: blanks ++ ([last] ++ [':']) := ⟨[':'], by simp⟩
      apply List.prefix_of_prefix_length_le hwhole hgap
      simp only [List.length_append, List.length_cons, List.length_nil]
      omega
    have hall : ∀ c ∈ o.trigger, isBlank c = true := by
      intro c hc
      exact hgap c (hgiven.subset (List.mem_append_right _ hc))
    rw [event?, hread, Option.map_some, strip_eq_nil hall]

end Events
end Line
end ScriptProfiling
