import ScriptProfiling.Proofs.Markup.Shown
import ScriptProfiling.Proofs.Report.Voice

/-!
# What a report shows

A block of lines shows the plain block if the texts from scripts in it are legible, and only
then. What a place begins may go on in the text behind it, so that is asked not to close a tag.

`ShownInStyle` and `ShownAtEnd` are the exact conditions on a text, by where it stands: a tag of
the template takes all but one of the backslashes at its end, and the end of a line doubles a single
one. `Separated` is the condition under which a place and the text behind it are read apart.
-/
namespace ScriptProfiling

namespace Report

section Blocks

variable {P Q : Prop}

/-- Lines as they stand in a text that begins with a line end. -/
def source (lines : List String) : List Char := lines.flatMap fun l => '\n' :: l.toList

/-- Lines that show other lines if a condition is met, and that close no tag before them. -/
structure Block (lines plain : List String) (P : Prop) : Prop where
  shows : Shows (source lines) (source plain) P
  closes : closes (source lines) = false

variable {ls plain ms more : List String}

theorem source_append (ls ms : List String) : source (ls ++ ms) = source ls ++ source ms :=
  List.flatMap_append

theorem atLineEnd_source (ls : List String) : AtLineEnd (source ls) := by
  cases ls with
  | nil => exact atLineEnd_nil
  | cons l ls => exact atLineEnd_cons _

theorem Block.congr (h : Block ls plain P) (hiff : P ↔ Q) : Block ls plain Q := propext hiff ▸ h

theorem Block.append (h : Block ls plain P) (hmore : Block ms more Q) :
    Block (ls ++ ms) (plain ++ more) (P ∧ Q) := by
  constructor
  · rw [source_append, source_append]
    exact h.shows.append hmore.shows (fun _ => hmore.closes) (atLineEnd_source _)
      (atLineEnd_source _)
  · rw [source_append, closes_append, h.closes, hmore.closes]
    exact ite_self false

theorem quiet_source (h : ∀ l ∈ ls, Quiet l.toList) : Quiet (source ls) := by
  intro c hc
  obtain ⟨l, hl, hc⟩ := List.mem_flatMap.mp hc
  rcases List.mem_cons.mp hc with rfl | hc
  · rfl
  · exact h l hl c hc

theorem block_quiet (h : ∀ l ∈ ls, Quiet l.toList) : Block ls ls True := by
  have hquiet := quiet_source h
  have hcloses := closes_quiet_append hquiet []
  rw [List.append_nil] at hcloses
  exact ⟨shows_flat hquiet.flat, hcloses⟩

theorem block_blank : Block [""] [""] True := block_quiet (by decide)

theorem block_flatten {α : Type} {xs : List α} {f g : α → List String} {R : α → Prop}
    (h : ∀ x ∈ xs, Block (f x) (g x) (R x)) :
    Block (xs.flatMap f) (xs.flatMap g) (∀ x ∈ xs, R x) := by
  induction xs with
  | nil =>
    have hnone : Block ([] : List String) [] True := block_quiet nofun
    exact hnone.congr (by simp)
  | cons x xs ih =>
    obtain ⟨hx, hxs⟩ := List.forall_mem_cons.mp h
    exact (hx.append (ih hxs)).congr List.forall_mem_cons.symm

end Blocks

section Styled

variable {style indent text shown : String} {out : List Char} {k : Nat} {P : Prop}

theorem toList_styled (indent style text : String) :
    (indent ++ styled style text).toList = indent.toList ++ '[' :: (style.toList ++
      ']' :: (text.toList ++ '[' :: ('/' :: style.toList ++ ']' :: []))) := by
  simp [styled]

theorem source_singleton (l : String) : source [l] = '\n' :: l.toList := List.flatMap_singleton ..

theorem closes_source_styled (hindent : Quiet indent.toList) (style text : String) :
    closes (source [indent ++ styled style text]) = false := by
  have hquiet : Quiet ('\n' :: indent.toList) := List.forall_mem_cons.mpr ⟨by decide, hindent⟩
  rw [source_singleton, toList_styled, ← List.cons_append, closes_quiet_append hquiet]
  rfl

/-- A line with text in a style. The tag that closes the style has the backslashes at the end
of the text. -/
theorem block_styled (hstyle : style ∈ palette) (hindent : Quiet indent.toList)
    (hinside : Inside text.toList out k)
    (hgood : P → k % 2 = 0 ∧ out ++ List.replicate (k / 2) '\\' = shown.toList)
    (hexact : ∀ a b, AtLineEnd a → AtLineEnd b →
      visible (out ++ (Piece.tag k ('/' :: style.toList)).shown) ++ a = visible shown.toList ++ b →
        P ∧ a = b) :
    Block [indent ++ styled style text] [indent ++ shown] P := by
  have hpalette := isStyle_of_mem_palette style hstyle
  obtain ⟨ps, hstill, rfl, hpieces⟩ := hinside.exists_pieces
  have hquiet : Quiet ('\n' :: indent.toList) := List.forall_mem_cons.mpr ⟨by decide, hindent⟩
  have hline : pieces (source [indent ++ styled style text]) =
      ('\n' :: indent.toList).map .char ++ .tag 0 style.toList ::
        (ps ++ [.tag k ('/' :: style.toList)]) := by
    have hopen := pieces_tag 0 (tagBody?_of_isBody hpalette.body
      (text.toList ++ '[' :: ('/' :: style.toList ++ ']' :: [])))
    rw [List.replicate_zero, List.nil_append] at hopen
    rw [source_singleton, toList_styled, ← List.cons_append, pieces_flat_append hquiet.flat, hopen,
      hpieces _ [] (Scanner.isBody_close hpalette), pieces_nil]
  have hdisplay : display (pieces (source [indent ++ styled style text])) =
      '\n' :: indent.toList ++ (display ps ++ (Piece.tag k ('/' :: style.toList)).shown) := by
    have htag : ∀ (k : Nat) (body : List Char) (qs : List Piece),
        display (.tag k body :: qs) = (Piece.tag k body).shown ++ display qs := fun k body qs => by
      simp [display]
    have hzero : (Piece.tag 0 style.toList).shown = [] := rfl
    rw [hline, hquiet.flat.display_append, htag, hzero, List.nil_append,
      display_append (by simp), htag, display, List.append_nil]
  have hplain : source [indent ++ shown] = '\n' :: indent.toList ++ shown.toList := by
    rw [source_singleton, String.toList_append]
    rfl
  refine ⟨⟨?_, ?_, ?_⟩, closes_source_styled hindent style text⟩
  · intro hP tags
    have heven : decide (k % 2 = 1) = false := decide_eq_false (by have := (hgood hP).1; omega)
    have hfound : closeTag? style (⟨style, []⟩ :: tags) = some (⟨style, []⟩, tags) := if_pos rfl
    have hclosed : Scanner.follow (⟨style, []⟩ :: tags) false ('/' :: style.toList) = .ok tags :=
      Scanner.follow_close hpalette hfound rfl
    have hopened : Piece.obey tags (.tag 0 style.toList) = .ok (⟨style, []⟩ :: tags) :=
      Scanner.follow_style hpalette tags
    rw [hline, (still_chars _).foldlM, List.foldlM_cons, hopened]
    change (ps ++ _).foldlM Piece.obey (⟨style, []⟩ :: tags) = _
    rw [hstill.foldlM, List.foldlM_cons, Piece.obey, heven, hclosed]
    rfl
  · intro hP
    obtain ⟨heven, hshown⟩ := hgood hP
    have htag : (Piece.tag k ('/' :: style.toList)).shown = List.replicate (k / 2) '\\' := by
      simp [Piece.shown, heven]
    rw [hdisplay, hplain, htag, hshown]
  · intro a b ha hb heq
    rw [hdisplay, hplain] at heq
    exact hexact a b ha hb (visible_cancel _ heq)

theorem block_whole (hstyle : style ∈ palette) (hindent : Quiet indent.toList)
    (hinside : Inside text.toList shown.toList 0) :
    Block [indent ++ styled style text] [indent ++ shown] True := by
  refine block_styled hstyle hindent hinside (fun _ => ⟨rfl, List.append_nil _⟩) ?_
  intro a b _ _ heq
  have htag : (Piece.tag 0 ('/' :: style.toList)).shown = [] := rfl
  rw [htag, List.append_nil] at heq
  exact ⟨trivial, List.append_cancel_left heq⟩

theorem block_title (hstyle : style ∈ palette) (hindent : Quiet indent.toList)
    (h : Quiet text.toList) : Block [indent ++ styled style text] [indent ++ text] True := by
  have hinside := inside_nil.flat_append h.flat
  rw [List.append_nil] at hinside
  exact block_whole hstyle hindent hinside

theorem block_heading {title : String} (h : Quiet title.toList) :
    Block [Voice.markup.heading title] [Voice.plain.heading title] True := by
  have hindent : Quiet "".toList := by decide
  have hcyan : "bold cyan" ∈ palette := by decide
  have hblock := block_title hcyan hindent h
  rwa [String.empty_append, String.empty_append] at hblock

end Styled

section Named

variable {style indent before beforeMarkup : String}

/-- Text from a script that is shown as it is, where a tag of the template follows it. -/
def ShownInStyle (x : String) : Prop := loneEscape x.toList = false ∧ trailing x.toList ≤ 1

/-- Text from a script that is shown as it is at the end of a line. -/
def ShownAtEnd (x : String) : Prop := loneEscape x.toList = false ∧ trailing x.toList ≠ 1

instance (x : String) : Decidable (ShownInStyle x) := inferInstanceAs (Decidable (_ ∧ _))

instance (x : String) : Decidable (ShownAtEnd x) := inferInstanceAs (Decidable (_ ∧ _))

theorem block_named (hstyle : style ∈ palette) (hindent : Quiet indent.toList) (name : String)
    (hbefore : ∀ inner out k, closes inner = closes name.toList → Inside inner out k →
      Inside (beforeMarkup.toList ++ inner) (before.toList ++ out) k) :
    Block [indent ++ styled style (beforeMarkup ++ escapeMarkup name)]
      [indent ++ (before ++ name)] (ShownInStyle name) := by
  obtain ⟨y, hname, hy⟩ := exists_trailing name.toList
  have hlone : loneEscape name.toList = loneEscape y := by
    conv_lhs => rw [hname]
    exact loneEscape_append_backslashes y _
  generalize hk : trailing name.toList = k at hname
  have hinside : Inside (beforeMarkup ++ escapeMarkup name).toList (before.toList ++ literal y)
      (endSlashes k) := by
    rw [String.toList_append, toList_escapeMarkup]
    refine hbefore _ _ _ (closes_escapeChars _) ?_
    rw [hname]
    exact inside_escaped hy k
  have hplain : (before ++ name).toList = before.toList ++ (y ++ List.replicate k '\\') := by
    rw [String.toList_append, ← hname]
  refine block_styled hstyle hindent hinside ?_ ?_
  · rintro ⟨hx, htrailing⟩
    rw [hlone] at hx
    rw [hk] at htrailing
    have hslashes : endSlashes k % 2 = 0 ∧ endSlashes k / 2 = k := by
      obtain rfl | rfl : k = 0 ∨ k = 1 := by omega
      · exact ⟨rfl, rfl⟩
      · exact ⟨rfl, rfl⟩
    rw [hplain, literal_eq hx, hslashes.2, List.append_assoc]
    exact ⟨hslashes.1, rfl⟩
  · intro a b ha _ heq
    rw [hplain, List.append_assoc] at heq
    have hrest := visible_cancel _ heq
    rw [visible_append, visible_append, List.append_assoc, List.append_assoc] at hrest
    obtain ⟨hx, hend⟩ := loneEscape_of_literal hrest
    obtain ⟨htrailing, hab⟩ := le_one_of_endSlashes ha hend
    exact ⟨⟨hlone.trans hx, hk ▸ htrailing⟩, hab⟩

theorem shows_ending {label : List Char} (h : Quiet label) (x : String) :
    Shows (label ++ (escapeMarkup x).toList) (label ++ x.toList) (ShownAtEnd x) := by
  obtain ⟨y, hx, hy⟩ := exists_trailing x.toList
  have hlone : loneEscape x.toList = loneEscape y := by
    conv_lhs => rw [hx]
    exact loneEscape_append_backslashes y _
  generalize hk : trailing x.toList = k at hx
  have hpieces : pieces (label ++ (escapeMarkup x).toList) = label.map .char ++
      ((pieces y).map escapedOnce ++ (List.replicate (endSlashes k) '\\').map .char) := by
    rw [toList_escapeMarkup, hx, pieces_flat_append h.flat, pieces_escapeChars hy]
  have hdisplay : display (pieces (label ++ (escapeMarkup x).toList)) =
      label ++ (literal y ++ List.replicate (endSlashes k) '\\') := by
    rw [hpieces, h.flat.display_append, display_literal_append hy, display_replicate]
  refine ⟨?_, ?_, ?_⟩
  · intro _ tags
    have hstill := (still_chars label).append ((still_escapedOnce (pieces y)).append
      (still_chars (List.replicate (endSlashes k) '\\')))
    rw [hpieces]
    exact hstill.foldlM_eq tags
  · rintro ⟨hlegible, htrailing⟩
    rw [hlone] at hlegible
    rw [hk] at htrailing
    have hend : endSlashes k = k := if_neg htrailing
    rw [hdisplay, literal_eq hlegible, hend, ← hx]
  · intro a b _ hb heq
    have hsplit : label ++ x.toList = label ++ (y ++ List.replicate k '\\') := by rw [← hx]
    rw [hdisplay, hsplit] at heq
    have hrest := visible_cancel _ heq
    rw [visible_append, visible_append, List.append_assoc, List.append_assoc] at hrest
    obtain ⟨hlegible, hend⟩ := loneEscape_of_literal hrest
    obtain ⟨htrailing, hab⟩ := eq_of_endSlashes hb hend
    exact ⟨⟨hlone.trans hlegible, hk ▸ htrailing⟩, hab⟩

end Named

section Findings

/-- What one text begins the other does not complete. -/
def Separate (x y : String) : Prop := unfinished x.toList = true → closes y.toList = false

instance (x y : String) : Decidable (Separate x y) := inferInstanceAs (Decidable (_ → _))

theorem backslash_not_mem_shortPlace (file : String) (line : Int) :
    '\\' ∉ (shortPlace file line).toList :=
  not_mem_shortPlace (backslash_not_mem_shortFileName _) (by decide) line

theorem shownAtEnd_of_notMem {x : String} (h : '\\' ∉ x.toList) : ShownAtEnd x := by
  refine ⟨loneEscape_eq_false h, ?_⟩
  rw [trailing_eq_zero h]
  decide

theorem getLast?_ne_backslash {cs : List Char} (h : '\\' ∉ cs) : cs.getLast? ≠ some '\\' :=
  fun hlast => h (List.mem_of_getLast? hlast)

theorem block_operation {o : Listed} (h : Separate
    (shortPlace o.rated.record.key.file o.rated.record.key.line) o.rated.record.name) :
    Block ["  " ++ styled (speedStyle o.rated.average) (Voice.markup.operation o)]
      ["  " ++ Voice.plain.operation o] (ShownInStyle o.rated.record.name) := by
  have hback := backslash_not_mem_shortPlace o.rated.record.key.file o.rated.record.key.line
  have hmarkup : Voice.markup.operation o = wholeText o.rank ++ ". " ++
      escapeMarkup (shortPlace o.rated.record.key.file o.rated.record.key.line) ++ " - " ++
      escapeMarkup o.rated.record.name := rfl
  have hplain : Voice.plain.operation o = wholeText o.rank ++ ". " ++
      shortPlace o.rated.record.key.file o.rated.record.key.line ++ " - " ++
      o.rated.record.name := rfl
  rw [hmarkup, hplain]
  generalize shortPlace o.rated.record.key.file o.rated.record.key.line = place at h hback ⊢
  have hdash : Quiet " - ".toList := by decide
  have hdot : Quiet ". ".toList := by decide
  have hbefore : ∀ inner out k, closes inner = closes o.rated.record.name.toList →
      Inside inner out k →
      Inside ((wholeText o.rank ++ ". " ++ escapeMarkup place ++ " - ").toList ++ inner)
        ((wholeText o.rank ++ ". " ++ place ++ " - ").toList ++ out) k := by
    intro inner out k hcloses hinside
    have hplace := (hinside.flat_append hdash.flat).escaped_append
      (getLast?_ne_backslash hback) fun hunfinished => by
        rw [closes_quiet_append hdash, hcloses]
        exact h hunfinished
    rw [literal_eq_self hback] at hplace
    have hall := (hplace.flat_append hdot.flat).flat_append (quiet_wholeText o.rank).flat
    simpa only [String.toList_append, toList_escapeMarkup, List.append_assoc] using hall
  exact block_named (speedStyle_mem_palette _) (by decide) _ hbefore

theorem tagBody?_cons_eq_none {c : Char} (h : opensTag c = false) (cs : List Char) :
    tagBody? (c :: cs) = none := by
  simp [tagBody?, h]

theorem block_issueTitle (i : Issue) :
    Block ["  " ++ styled (severityStyle i.severity)
        ("\\[" ++ i.severity.label ++ "] " ++ i.kind.displayName)]
      ["  " ++ ("[" ++ i.severity.label ++ "] " ++ i.kind.displayName)] True := by
  have hquiet : Quiet i.severity.label.toList ∧ ∃ c cs, i.severity.label.toList = c :: cs ∧
      opensTag c = false := by
    cases i.severity <;> exact ⟨by decide, _, _, rfl, by decide⟩
  obtain ⟨hlabel, c, cs, hcs, hopens⟩ := hquiet
  have hclose : Flat "] ".toList := by
    intro c hc
    fin_cases hc <;> decide
  have hinside := ((inside_nil.flat_append (quiet_displayName i.kind).flat).flat_append
    hclose).flat_append hlabel.flat
  have hnone : ∀ rest, tagBody? (i.severity.label.toList ++ ("] ".toList ++
      (i.kind.displayName.toList ++ [])) ++ rest) = none := by
    intro rest
    rw [hcs]
    exact tagBody?_cons_eq_none hopens _
  refine block_whole (severityStyle_mem_palette i.severity) (by decide) ?_
  have hall := hinside.bracket_cons hnone
  simpa [String.toList_append] using hall

theorem shows_endingLine {label : String} (h : Quiet label.toList) (x : String) :
    Shows (source [label ++ escapeMarkup x]) (source [label ++ x]) (ShownAtEnd x) := by
  have hquiet : Quiet ('\n' :: label.toList) := List.forall_mem_cons.mpr ⟨by decide, h⟩
  rw [source_singleton, source_singleton, String.toList_append, String.toList_append]
  exact shows_ending hquiet x

/-- The place of an issue and its description stand on lines that no tag closes, so what the
one begins may go on in the other. -/
theorem shows_finding {i : Issue} (h : Separate (shortPlace i.file i.line) i.description) :
    Shows (source ["  Location: " ++ escapeMarkup (shortPlace i.file i.line),
        "  Issue: " ++ escapeMarkup i.description])
      (source ["  Location: " ++ shortPlace i.file i.line, "  Issue: " ++ i.description])
      (ShownAtEnd i.description) := by
  have hback := backslash_not_mem_shortPlace i.file i.line
  generalize shortPlace i.file i.line = place at h hback ⊢
  have hplaceLabel : Quiet "  Location: ".toList := by decide
  have hissueLabel : Quiet "  Issue: ".toList := by decide
  have hplaceLine : Quiet ('\n' :: "  Location: ".toList) := by decide
  have hissueLine : Quiet ('\n' :: "  Issue: ".toList) := by decide
  have htag : unfinished (source ["  Location: " ++ escapeMarkup place]) = true →
      closes (source ["  Issue: " ++ escapeMarkup i.description]) = false := by
    rw [source_singleton, source_singleton, String.toList_append, String.toList_append,
      toList_escapeMarkup, toList_escapeMarkup, ← List.cons_append, ← List.cons_append,
      unfinished_append_of_notMem hplaceLine.flat.notMem, closes_quiet_append hissueLine,
      escapeChars_eq_escapedTags (getLast?_ne_backslash hback), unfinished_escapedTags,
      closes_escapeChars]
    exact h
  have hboth := (shows_endingLine hplaceLabel place).append
    (shows_endingLine hissueLabel i.description) htag (atLineEnd_source _) (atLineEnd_source _)
  rw [← source_append, ← source_append] at hboth
  exact hboth.congr (and_iff_right (shownAtEnd_of_notMem hback))

theorem unfinished_source_styled (indent style text : String) :
    unfinished (source ["", indent ++ styled style text]) = false := by
  have hend : source ["", indent ++ styled style text] = ('\n' :: '\n' :: (indent.toList ++
      '[' :: (style.toList ++ ']' :: (text.toList ++ '[' :: '/' :: style.toList)))) ++ [']'] := by
    simp [source, styled]
  rw [hend]
  exact unfinished_concat_bracket _

theorem any_source_styled (indent style text : String) :
    (source ["", indent ++ styled style text]).any isBracket = true := by
  simp [source, styled, isBracket]

theorem block_issue (suggestions : Bool) {i : Issue}
    (h : Separate (shortPlace i.file i.line) i.description) :
    Block (Voice.markup.issueLines suggestions i) (Voice.plain.issueLines suggestions i)
      (ShownAtEnd i.description ∧ (suggestions = true → ShownInStyle i.suggestion)) := by
  have hopening := block_blank.append (block_issueTitle i)
  have hfour : Block (["", "  " ++ styled (severityStyle i.severity)
        ("\\[" ++ i.severity.label ++ "] " ++ i.kind.displayName)] ++
        ["  Location: " ++ escapeMarkup (shortPlace i.file i.line),
          "  Issue: " ++ escapeMarkup i.description])
      (["", "  " ++ ("[" ++ i.severity.label ++ "] " ++ i.kind.displayName)] ++
        ["  Location: " ++ shortPlace i.file i.line, "  Issue: " ++ i.description])
      ((True ∧ True) ∧ ShownAtEnd i.description) := by
    constructor
    · rw [source_append, source_append]
      refine hopening.shows.append (shows_finding h) (fun hunfinished => ?_) (atLineEnd_source _)
        (atLineEnd_source _)
      exact absurd ((unfinished_source_styled ..).symm.trans hunfinished) Bool.false_ne_true
    · rw [source_append, closes_append, if_pos (any_source_styled ..)]
      exact hopening.closes
  cases suggestions with
  | false => exact hfour.congr (by simp)
  | true =>
    have hlabel : Quiet "Suggestion: ".toList := by decide
    have hsuggestion : Block ["  " ++ styled "green" ("Suggestion: " ++ escapeMarkup i.suggestion)]
        ["  " ++ ("Suggestion: " ++ i.suggestion)] (ShownInStyle i.suggestion) :=
      block_named (by decide) (by decide) i.suggestion fun _ _ _ _ hinside =>
        hinside.flat_append hlabel.flat
    exact (hfour.append hsuggestion).congr (by simp)

theorem block_file (file : String × List String) (h : ∀ l ∈ file.2, Quiet l.toList) :
    Block (Voice.markup.fileLines file) (Voice.plain.fileLines file) True := by
  have hback : '\\' ∉ (String.ofList (shortFileName file.1.toList)).toList := by
    rw [String.toList_ofList]
    exact backslash_not_mem_shortFileName _
  generalize hname : String.ofList (shortFileName file.1.toList) = name at hback
  have hcolon : Quiet ":".toList := by decide
  have hinside := (inside_nil.flat_append hcolon.flat).escaped_append
    (getLast?_ne_backslash hback) fun _ => rfl
  rw [literal_eq_self hback] at hinside
  have htitle : Block ["  " ++ styled "yellow" (escapeMarkup name ++ ":")] ["  " ++ (name ++ ":")]
      True := by
    refine block_whole (by decide) (by decide) ?_
    simpa only [String.toList_append, toList_escapeMarkup, List.append_nil] using hinside
  rw [← hname] at htitle
  exact ((block_blank.append htitle).append (block_quiet h)).congr (by simp)

end Findings

section Whole

theorem block_header {title : String} (h : Quiet title.toList) :
    Block (Voice.markup.header title) (Voice.plain.header title) True := by
  have hindent : Quiet "".toList := by decide
  have hgold : "gold1" ∈ palette := by decide
  have hyellow : "bold yellow" ∈ palette := by decide
  have hrule := block_title hgold hindent quiet_rule
  have htitle := block_title hyellow hindent
    (quiet_append.mpr ⟨(by decide : Quiet "  ".toList), h⟩)
  rw [String.empty_append, String.empty_append] at hrule htitle
  exact ((hrule.append htitle).append hrule).congr (by simp)

theorem block_breakdown {files : Option (List (String × List String))}
    (h : ∀ listed ∈ files, ∀ file ∈ listed, ∀ l ∈ file.2, Quiet l.toList) :
    Block (Voice.markup.breakdown files) (Voice.plain.breakdown files) True := by
  cases files with
  | none => exact block_quiet nofun
  | some listed =>
    have hfiles := block_flatten (R := fun _ => True) fun file hfile =>
      block_file file (h listed rfl file hfile)
    exact (((block_heading (by decide)).append hfiles).append block_blank).congr (by simp)

/-- Every text of the contents that comes from a script is shown as it is. -/
structure Content.Legible (c : Content) : Prop where
  names : ∀ o ∈ c.slowest, ShownInStyle o.rated.record.name
  descriptions : ∀ i ∈ c.issues, ShownAtEnd i.description
  suggestions : ∀ i ∈ c.issues, c.suggestions = true → ShownInStyle i.suggestion

/-- No place completes a tag with the text that follows it. -/
structure Content.Separated (c : Content) : Prop where
  names : ∀ o ∈ c.slowest, Separate
    (shortPlace o.rated.record.key.file o.rated.record.key.line) o.rated.record.name
  descriptions : ∀ i ∈ c.issues, Separate (shortPlace i.file i.line) i.description

theorem block_write {input : ReportInput} {c : Content} (hof : c.Of input) (h : c.Separated) :
    Block (Voice.markup.write c) (Voice.plain.write c) c.Legible := by
  have hslowest := block_flatten fun o ho => (block_operation (h.names o ho)).append
    (block_quiet (quiet_of_tame (hof.slowest o ho).2))
  have hissues := block_flatten fun i hi => block_issue c.suggestions (h.descriptions i hi)
  have hfiles := block_breakdown fun listed hlisted file hfile =>
    quiet_of_tame (hof.files listed hlisted file hfile).2
  have hquiet : Quiet "SKRIPT PROFILER REPORT".toList ∧ Quiet "Summary:".toList ∧
      Quiet "Top Slowest Operations:".toList ∧ Quiet "General Recommendations:".toList := by decide
  obtain ⟨hname, hoverview, hslow, hadvice⟩ := hquiet
  have hsummary := (block_heading hoverview).append (block_quiet (quiet_of_tame hof.facts))
  have htop := (block_heading hslow).append hslowest
  have hremarks := block_quiet (quiet_of_tame hof.remarks)
  have hfound := (block_heading hof.verdict.quiet).append (hissues.append hremarks)
  have htips := (block_heading hadvice).append (block_quiet (quiet_of_tame hof.tips))
  have hheader := block_header hname
  have hfirst := ((hheader.append block_blank).append hsummary).append block_blank
  have hmiddle := ((hfirst.append htop).append block_blank).append hfound
  have hall := ((hmiddle.append block_blank).append hfiles).append htips
  refine Block.congr hall ?_
  simp only [true_and, and_true]
  constructor
  · rintro ⟨hnames, hfindings⟩
    exact ⟨hnames, fun i hi => (hfindings i hi).1, fun i hi => (hfindings i hi).2⟩
  · intro hlegible
    exact ⟨hlegible.names, fun i hi => ⟨hlegible.descriptions i hi, hlegible.suggestions i hi⟩⟩

variable {t : Thresholds} {default : Number} {input : ReportInput} {detailed : Bool}

/-- A text as a terminal shows it. -/
def visibleText (s : String) : String := String.ofList (visible s.toList)

theorem visibleText_eq_self {s : String} (h : ∀ c ∈ s.toList, isTerminalControl c = false) :
    visibleText s = s := by
  rw [visibleText, visible_eq_self h, String.ofList_toList]

theorem visible_source (ls : List String) : visible (source ls) = source (ls.map visibleText) := by
  induction ls with
  | nil => rfl
  | cons l ls ih =>
    have hsplit : ∀ (m : String) (ms : List String),
        source (m :: ms) = '\n' :: (m.toList ++ source ms) := fun _ _ => rfl
    rw [List.map_cons, hsplit, hsplit, visible_cons_of_not (by decide), visible_append, ih,
      visibleText, String.toList_ofList]

/-- Text without characters that a terminal would obey. -/
def Printable (s : String) : Prop := ∀ c ∈ s.toList, isTerminalControl c = false

instance (s : String) : Decidable (Printable s) := List.decidableBAll _ _

theorem printable_append {x y : String} : Printable (x ++ y) ↔ Printable x ∧ Printable y := by
  unfold Printable
  rw [String.toList_append]
  exact List.forall_mem_append

theorem isTerminalControl_of_isDigit {c : Char} (h : c = '-' ∨ c.isDigit = true) :
    isTerminalControl c = false := by
  rcases h with rfl | h
  · decide
  · have hbounds : 48 ≤ c.toNat ∧ c.toNat ≤ 57 := by
      simp only [Char.isDigit, Bool.and_eq_true, decide_eq_true_eq, ge_iff_le,
        UInt32.le_iff_toNat_le] at h
      exact h
    have hne : c.toNat ≠ 7 ∧ c.toNat ≠ 8 ∧ c.toNat ≠ 11 ∧ c.toNat ≠ 12 ∧ c.toNat ≠ 13 := by omega
    simp [isTerminalControl, hne]

theorem printable_wholeText (n : Int) : Printable (wholeText n) :=
  fun _ hc => isTerminalControl_of_isDigit (mem_wholeText hc)

theorem printable_shortPlace {file : String} (h : Printable file) (line : Int) :
    Printable (shortPlace file line) := by
  intro c hc
  rcases mem_shortPlace hc with hname | rfl | hdigit
  · rcases (mem_shortFileName hname).2 with hfile | hunknown
    · exact h c hfile
    · exact (by decide : Printable "unknown") c hunknown
  · decide
  · exact isTerminalControl_of_isDigit hdigit

/-- No text of the contents that comes from a script has characters that a terminal would obey. -/
structure Content.Printable (c : Content) : Prop where
  operations : ∀ o ∈ c.slowest,
    Report.Printable o.rated.record.key.file ∧ Report.Printable o.rated.record.name
  issues : ∀ i ∈ c.issues,
    Report.Printable i.file ∧ Report.Printable i.description ∧ Report.Printable i.suggestion

theorem Content.Printable.texts {c : Content} (h : c.Printable) :
    ∀ x ∈ c.texts, Report.Printable x := by
  intro x hx
  rcases List.mem_append.mp hx with hx | hx
  · obtain ⟨o, ho, rfl⟩ := List.mem_map.mp hx
    obtain ⟨hfile, hname⟩ := h.operations o ho
    have hrank : Report.Printable (wholeText o.rank ++ ". ") :=
      printable_append.mpr ⟨printable_wholeText _, by decide⟩
    have hplace := printable_append.mpr
      ⟨hrank, printable_shortPlace hfile o.rated.record.key.line⟩
    have hdash := printable_append.mpr ⟨hplace, (by decide : Report.Printable " - ")⟩
    exact printable_append.mpr ⟨by decide, printable_append.mpr ⟨hdash, hname⟩⟩
  · obtain ⟨i, hi, hx⟩ := List.mem_flatMap.mp hx
    obtain ⟨hfile, hdescription, hsuggestion⟩ := h.issues i hi
    rcases List.mem_append.mp hx with hx | hx
    · rcases List.mem_cons.mp hx with rfl | hx
      · exact printable_append.mpr ⟨by decide, printable_shortPlace hfile i.line⟩
      · obtain rfl := List.mem_singleton.mp hx
        exact printable_append.mpr ⟨by decide, hdescription⟩
    · split at hx
      · obtain rfl := List.mem_singleton.mp hx
        exact printable_append.mpr ⟨by decide, printable_append.mpr ⟨by decide, hsuggestion⟩⟩
      · cases hx

/-- The lines of the plain report as a terminal shows them. -/
def Content.shown (c : Content) : List String := (Voice.plain.write c).map visibleText

theorem Block.stripMarkup_iff {ls plain : List String} {P : Prop} (h : Block ls plain P)
    (hne : ls ≠ []) (hplain : plain ≠ []) :
    stripMarkup (joinLines ls) = .ok (joinLines (plain.map visibleText)) ↔ P := by
  have hsource : source ls = '\n' :: (joinLines ls).toList := (toList_joinLines hne).symm
  have hshown : visible (source plain) = '\n' :: (joinLines (plain.map visibleText)).toList := by
    rw [visible_source]
    exact (toList_joinLines (by simpa using hplain)).symm
  have hobey : ∀ tags, (pieces (source ls)).foldlM Piece.obey tags =
      (pieces (joinLines ls).toList).foldlM Piece.obey tags := by
    intro tags
    rw [hsource, pieces_lineEnd]
    rfl
  have hdisplay : visible (display (pieces (source ls))) =
      '\n' :: visible (display (pieces (joinLines ls).toList)) := by
    rw [hsource, display_lineEnd, visible_cons_of_not (by decide)]
  rw [stripMarkup_eq_ok_iff]
  constructor
  · rintro ⟨-, hequal⟩
    have heq : visible (display (pieces (source ls))) ++ [] = visible (source plain) ++ [] := by
      rw [hdisplay, hshown, hequal]
    exact (h.shows.exact [] [] atLineEnd_nil atLineEnd_nil heq).1
  · intro hP
    refine ⟨⟨[], ?_⟩, ?_⟩
    · rw [← hobey]
      exact h.shows.obeyed hP []
    · rw [h.shows.shown hP, hshown] at hdisplay
      exact (List.cons.inj hdisplay).2

end Whole

/-- Where no place completes a tag with the text behind it, a report reads as the plain report
if and only if each text of a script in it is legible: a backslash before a bracket that
begins no tag is lost, and so are backslashes at the end of a name or a suggestion, all but a
single one; a single one at the end of a description is doubled. The plain report has the texts
of the operations and issues that are listed on lines of their own, in their order and as they
are. -/
theorem render_legible {t : Thresholds} {default : Number} {input : ReportInput} {detailed : Bool}
    {text : String} (hmetrics : input.metrics.isEmpty = false)
    (h : render t default input detailed = .ok text) :
    ∃ c, content t default input detailed = .ok c ∧
      (c.Printable → c.texts.Sublist c.shown) ∧
      (c.Separated → (stripMarkup text = .ok (joinLines c.shown) ↔ c.Legible)) := by
  obtain ⟨c, hcontent, rfl⟩ := exists_content h hmetrics
  refine ⟨c, hcontent, fun hprintable => ?_, fun hseparated => ?_⟩
  · have hsame : c.texts.map visibleText = c.texts :=
      (List.map_congr_left fun x hx => visibleText_eq_self (hprintable.texts x hx)).trans
        (List.map_id _)
    rw [← hsame]
    exact (texts_sublist c).map visibleText
  · have hblock := block_write (content_of hcontent) hseparated
    exact hblock.stripMarkup_iff (by simp [Voice.write, Voice.header])
      (by simp [Voice.write, Voice.header])

/-- An operation and an issue whose texts look like markup and are all legible. -/
def bracketedInput : ReportInput where
  metrics := .ofList [(⟨"plugins/the [old] one.sk", 3, "event"⟩,
    ⟨⟨"plugins/the [old] one.sk", 3, "event"⟩, "on [/red] of \\\\[b] the [unfinished \\", 1,
      5000000,
      5000000, some 5000000⟩)]
  issues := [⟨.slowEvent, .critical, "plugins/[x", 7, "[the] player [", "[/green]] \\", none⟩]
  scripts := .empty
  durationMs := .int 60000
  load := .int 20

theorem render_legible_bracketedInput :
    ∃ text c, render .default (.int 20) bracketedInput true = .ok text ∧
      content .default (.int 20) bracketedInput true = .ok c ∧
      stripMarkup text = .ok (joinLines c.shown) ∧ c.texts.Sublist c.shown := by
  have hmodest : Modest bracketedInput := by
    refine ⟨?_, ?_, ?_, ?_, rfl, .int 20, rfl, rfl⟩ <;> decide +kernel
  have hrender : (render .default (.int 20) bracketedInput true).isOk = true :=
    hmodest.isOk_render rfl rfl (.inl rfl) true
  obtain ⟨text, htext⟩ := isOk_iff.mp hrender
  obtain ⟨c, hcontent, htexts, hlegible⟩ := render_legible rfl htext
  have hof := content_of hcontent
  have hnames : ∀ r ∈ bracketedInput.metrics.values, ShownInStyle r.name ∧
      Separate (shortPlace r.key.file r.key.line) r.name ∧ Printable r.key.file ∧
      Printable r.name := by decide +kernel
  have hfindings : ∀ i ∈ bracketedInput.issues, (ShownAtEnd i.description ∧
      ShownInStyle i.suggestion) ∧ Separate (shortPlace i.file i.line) i.description ∧
      Printable i.file ∧ Printable i.description ∧ Printable i.suggestion := by decide +kernel
  have hseparated : c.Separated :=
    ⟨fun o ho => (hnames _ (hof.slowest o ho).1).2.1,
      fun i hi => (hfindings i (hof.issues i hi)).2.1⟩
  refine ⟨text, c, htext, hcontent, (hlegible hseparated).mpr ?_, htexts ?_⟩
  · exact ⟨fun o ho => (hnames _ (hof.slowest o ho).1).1,
      fun i hi => (hfindings i (hof.issues i hi)).1.1,
      fun i hi _ => (hfindings i (hof.issues i hi)).1.2⟩
  · exact ⟨fun o ho => (hnames _ (hof.slowest o ho).1).2.2,
      fun i hi => (hfindings i (hof.issues i hi)).2.2⟩

end Report

end ScriptProfiling
