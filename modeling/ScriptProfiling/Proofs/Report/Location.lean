import ScriptProfiling.Proofs.Markup.Closing
import ScriptProfiling.Proofs.Report.Plain

/-!
# Places in reports

A place is a file and a line, and in a report the file goes by its short name. That name has no
slash, so a place closes no style, and no backslash, so it is shown as it is. Full paths may do
otherwise, each for want of one of the two.

`ForgesNothing` asks that a text closes nothing whatever stands behind it, and `ShownAsIs` that its
escape shows the text itself. The report could not print paths that fail either of them.
-/
namespace ScriptProfiling
namespace Report

/-- Text that, escaped, is part of no closing tag, whatever quiet text of a template and whatever
other escaped text stand around it. -/
def ForgesNothing (text : String) : Prop :=
  ∀ before between behind : String, Quiet before.toList → Quiet between.toList →
    NoClosing (pieces (before ++ escapeMarkup text ++ between ++ escapeMarkup behind).toList)

/-- Text that, escaped, is shown as it is between quiet texts of a template. -/
def ShownAsIs (text : String) : Prop :=
  ∀ before after : String, Quiet before.toList → Quiet after.toList →
    stripMarkup (before ++ escapeMarkup text ++ after) = .ok (visibleText (before ++ text ++ after))

/-- Text that, escaped, makes no fault of markup wherever a template has it so. -/
def NeverRefused (text : String) : Prop :=
  ∀ (before between behind : String) (f : Fault), Quiet before.toList → Quiet between.toList →
    stripMarkup (before ++ escapeMarkup text ++ between ++ escapeMarkup behind) = .error f →
    f.cls ≠ .badMarkup

section Text

variable {text : String}

theorem ForgesNothing.neverRefused (h : ForgesNothing text) : NeverRefused text := by
  intro before between behind f hbefore hbetween hf
  rw [(h before between behind hbefore hbetween).cls_stripMarkup hf]
  nofun

theorem forgesNothing_of_slash_not_mem (hslash : '/' ∉ text.toList)
    (hlast : ∀ c ∈ text.toList.getLast?, c ≠ '[' ∧ c ≠ '\\') : ForgesNothing text := by
  intro before between behind hbefore hbetween
  have hback : text.toList.getLast? ≠ some '\\' := fun h => (hlast '\\' h).2 rfl
  have hrest : Sealed (between.toList ++ escapeChars behind.toList) :=
    (sealed_escapeChars behind.toList).quiet_append hbetween
  simp only [String.toList_append, toList_escapeMarkup, List.append_assoc]
  rw [pieces_flat_append hbefore.flat, escapeChars_eq_escapedTags hback]
  exact (noClosing_chars _).append (noClosing_escapedTags_append hrest hslash hlast)

section Between

variable {before after : String} (hback : text.toList.getLast? ≠ some '\\')
  (hbefore : Quiet before.toList) (hafter : Quiet after.toList)

include hback hbefore hafter

theorem pieces_between : pieces (before ++ escapeMarkup text ++ after).toList =
    before.toList.map .char ++
      ((pieces text.toList).map escapedOnce ++ after.toList.map .char) := by
  have hcloses : closes after.toList = false := by
    have hnil := closes_quiet_append hafter []
    rwa [List.append_nil] at hnil
  simp only [String.toList_append, toList_escapeMarkup, List.append_assoc]
  rw [pieces_flat_append hbefore.flat, pieces_escapeChars_append hback fun _ => hcloses,
    hafter.flat.pieces_eq]

theorem still_between : Still (pieces (before ++ escapeMarkup text ++ after).toList) := by
  rw [pieces_between hback hbefore hafter]
  exact (still_chars _).append ((still_escapedOnce _).append (still_chars _))

theorem display_between : display (pieces (before ++ escapeMarkup text ++ after).toList) =
    before.toList ++ (literal text.toList ++ after.toList) := by
  rw [pieces_between hback hbefore hafter, hbefore.flat.display_append,
    display_literal_append hback, ← hafter.flat.pieces_eq, hafter.flat.display_eq]

end Between

/-- What is not shown as it is has a backslash before a bracket that begins no tag. -/
theorem shownAsIs_iff (hback : text.toList.getLast? ≠ some '\\') :
    ShownAsIs text ↔ loneEscape text.toList = false := by
  constructor
  · intro h
    have hquiet : Quiet "".toList := by decide
    have hshown := (stripMarkup_eq_ok_iff.mp (h "" "" hquiet hquiet)).2
    rw [display_between hback hquiet hquiet, visibleText, String.toList_ofList] at hshown
    have hliteral : visible (literal text.toList) ++ [] = visible text.toList ++ [] := by
      simpa using hshown.symm
    exact (loneEscape_of_literal hliteral).1
  · intro h before after hbefore hafter
    have hstill := still_between hback hbefore hafter
    refine stripMarkup_eq_ok_iff.mpr ⟨⟨[], hstill.foldlM_eq []⟩, ?_⟩
    rw [display_between hback hbefore hafter, literal_eq h, visibleText, String.toList_ofList,
      String.toList_append, String.toList_append, List.append_assoc]

end Text

section Place

open MetricKey (placeText)

variable {file name : String}

/-- A place whose file has no slash forges nothing: it ends in a digit. -/
theorem forgesNothing_placeText (h : '/' ∉ file.toList) (line : Int) :
    ForgesNothing (placeText file line) := by
  obtain ⟨c, hlast, hc⟩ := exists_getLast?_placeText file line
  refine forgesNothing_of_slash_not_mem (not_mem_placeText h (by decide) line) fun d hd => ?_
  obtain rfl : c = d := Option.some.inj (hlast.symm.trans hd)
  exact hc

theorem shownAsIs_placeText (h : '\\' ∉ file.toList) (line : Int) :
    ShownAsIs (placeText file line) := by
  have hplace := not_mem_placeText h (by decide) line
  exact (shownAsIs_iff (getLast?_ne_backslash hplace)).mpr (loneEscape_eq_false hplace)

theorem forgesNothing_shortPlace (file : String) (line : Int) :
    ForgesNothing (shortPlace file line) := by
  refine forgesNothing_placeText ?_ line
  rw [String.toList_ofList]
  exact slash_not_mem_shortFileName file.toList

theorem shownAsIs_shortPlace (file : String) (line : Int) :
    ShownAsIs (shortPlace file line) := by
  refine shownAsIs_placeText ?_ line
  rw [String.toList_ofList]
  exact backslash_not_mem_shortFileName file.toList

theorem isBracket_placeText (hname : ∀ c ∈ name.toList, isBracket c = false) (line : Int) :
    ∀ c ∈ (placeText name line).toList, isBracket c = false := by
  intro c hc
  rcases mem_placeText hc with hmem | rfl | rfl | hdigit
  · exact hname c hmem
  · rfl
  · rfl
  · have hquiet := Bool.and_eq_true_iff.mp (isQuiet_of_isDigit hdigit)
    simpa using hquiet.1

theorem getLast?_placeText_ne_backslash (file : String) (line : Int) :
    (placeText file line).toList.getLast? ≠ some '\\' := by
  obtain ⟨c, hlast, -, hc⟩ := exists_getLast?_placeText file line
  rw [hlast]
  exact fun h => hc (Option.some.inj h)

/-- A slash behind a bracket in a path is enough: text behind the place completes the tag. -/
theorem not_forgesNothing_placeText {front : String} (hfront : front.toList.getLast? ≠ some '\\')
    (hname : ∀ c ∈ name.toList, isBracket c = false) (line : Int) :
    ¬ ForgesNothing (placeText (front ++ "[/" ++ name) line) := by
  intro hforges
  have htext : (placeText (front ++ "[/" ++ name) line).toList =
      front.toList ++ '[' :: '/' :: (placeText name line).toList := by simp [placeText]
  have hbody : IsBody ('/' :: (placeText name line).toList ++ " - ".toList) :=
    ⟨'/', _, rfl, rfl, List.forall_mem_append.mpr
      ⟨isBracket_placeText hname line, by simp [isBracket]⟩⟩
  have hbehind : escapeChars "]".toList = [']'] :=
    (escapeChars_eq_escapedTags (by decide)).trans (escapedTags_eq_self (by decide))
  have hpieces := hforges "" " - " "]" (by decide) (by decide)
  simp only [String.empty_append, String.toList_append, toList_escapeMarkup, List.append_assoc]
    at hpieces
  rw [hbehind, escapeChars_eq_escapedTags (getLast?_placeText_ne_backslash _ line), htext,
    pieces_unfinished hfront hbody] at hpieces
  exact hpieces _ (List.mem_append_right _ List.mem_cons_self) ⟨rfl, rfl⟩

theorem not_shownAsIs_placeText (front : String)
    (hname : ∀ c ∈ name.toList, isBracket c = false) (line : Int) :
    ¬ ShownAsIs (placeText (front ++ "\\[" ++ name) line) := by
  have htext : (placeText (front ++ "\\[" ++ name) line).toList =
      front.toList ++ '\\' :: '[' :: (placeText name line).toList := by simp [placeText]
  have hlone : loneEscape ('\\' :: '[' :: (placeText name line).toList) = true :=
    loneEscape_bracket 1 (tagBody?_eq_none (isBracket_placeText hname line))
  rw [shownAsIs_iff (getLast?_placeText_ne_backslash _ line), htext, loneEscape_append _ hlone]
  exact fun h => Bool.false_ne_true h.symm

/-- A short name has no slash of either kind. It is the last name of its path, whatever stands
before that, whichever slashes separate and however many follow. So the places of a report forge
no closing tag and are shown as they are, for one reason each: with whole paths for names, those
without slashes would forge nothing and those without backslashes would be shown, but a bracket
with a slash behind it or a backslash before it would do harm. -/
theorem shortFileName_clean :
    (∀ path, '/' ∉ shortFileName path ∧ '\\' ∉ shortFileName path) ∧
    (∀ path other, List.Forall₂ SameInPath path other →
      shortFileName path = shortFileName other) ∧
    (∀ front slash name tail, isSlash slash = true → name ≠ [] → (∀ c ∈ name, isSlash c = false) →
      name ≠ ['.'] → (∀ c ∈ tail, isSlash c = true) →
      shortFileName (front ++ slash :: (name ++ tail)) = name) ∧
    (∀ file line place,
      shortLocation file line = .ok place ↔ WithinDigits line ∧ place = shortPlace file line) ∧
    (∀ file line, ForgesNothing (shortPlace file line) ∧ NeverRefused (shortPlace file line) ∧
      ShownAsIs (shortPlace file line)) ∧
    (∀ file line, ('/' ∉ file.toList → ForgesNothing (placeText file line)) ∧
      ('\\' ∉ file.toList → ShownAsIs (placeText file line))) ∧
    (∀ front name line, (∀ c ∈ name.toList, isBracket c = false) →
      (front.toList.getLast? ≠ some '\\' →
        ¬ ForgesNothing (placeText (front ++ "[/" ++ name) line)) ∧
      ¬ ShownAsIs (placeText (front ++ "\\[" ++ name) line)) := by
  refine ⟨fun path => ?_, fun path other h => shortFileName_congr h, ?_,
    fun file line place => shortLocation_eq_ok, fun file line => ?_, ?_, ?_⟩
  · exact ⟨slash_not_mem_shortFileName path, backslash_not_mem_shortFileName path⟩
  · intro front slash name tail hslash hne hname hdot htail
    exact shortFileName_append front hslash hne hname hdot htail
  · have hforges := forgesNothing_shortPlace file line
    exact ⟨hforges, hforges.neverRefused, shownAsIs_shortPlace file line⟩
  · intro file line
    exact ⟨fun h => forgesNothing_placeText h line, fun h => shownAsIs_placeText h line⟩
  · intro front name line hname
    exact ⟨fun hfront => not_forgesNothing_placeText hfront hname line,
      not_shownAsIs_placeText front hname line⟩

/-- A path that mixes the slashes, and names that look like markup. -/
theorem shortFileName_clean_mixedSlashes :
    (List.Forall₂ SameInPath "C:\\srv/./[old].sk\\".toList "C:/srv\\.\\[old].sk/".toList ∧
      shortFileName "C:\\srv/./[old].sk\\".toList =
        shortFileName "C:/srv\\.\\[old].sk/".toList) ∧
    (isSlash '\\' = true ∧ "[old].sk".toList ≠ [] ∧ (∀ c ∈ "[old].sk".toList, isSlash c = false) ∧
      "[old].sk".toList ≠ ['.'] ∧ (∀ c ∈ "/\\".toList, isSlash c = true) ∧
      shortFileName ("C:\\srv/.".toList ++ '\\' :: ("[old].sk".toList ++ "/\\".toList)) =
        "[old].sk".toList) ∧
    (WithinDigits 3 ∧
      shortLocation "srv\\[old]\\[/red" 3 = .ok (shortPlace "srv\\[old]\\[/red" 3)) ∧
    (ForgesNothing (shortPlace "srv\\[old]\\[/red" 3) ∧
      NeverRefused (shortPlace "srv\\[old]\\[/red" 3) ∧
      ShownAsIs (shortPlace "srv\\[old]\\[/red" 3)) ∧
    ('/' ∉ "srv\\[red".toList ∧ ForgesNothing (placeText "srv\\[red" 3)) ∧
    ('\\' ∉ "[srv]/[/red]".toList ∧ ShownAsIs (placeText "[srv]/[/red]" 3)) ∧
    ((∀ c ∈ "red".toList, isBracket c = false) ∧ "[srv]/".toList.getLast? ≠ some '\\' ∧
      ¬ ForgesNothing (placeText ("[srv]/" ++ "[/" ++ "red") 3) ∧
      ¬ ShownAsIs (placeText ("[srv]/" ++ "\\[" ++ "red") 3)) := by
  obtain ⟨-, hsame, hlast, hwritten, hplace, hwhole, hharm⟩ := shortFileName_clean
  have hpaths : List.Forall₂ SameInPath "C:\\srv/./[old].sk\\".toList
      "C:/srv\\.\\[old].sk/".toList := by decide
  have hname : ∀ c ∈ "[old].sk".toList, isSlash c = false := by simp [isSlash]
  have htail : ∀ c ∈ "/\\".toList, isSlash c = true := by simp [isSlash]
  have hred : ∀ c ∈ "red".toList, isBracket c = false := by simp [isBracket]
  have hfront : "[srv]/".toList.getLast? ≠ some '\\' := by decide
  obtain ⟨hforged, hlost⟩ := hharm "[srv]/" "red" 3 hred
  exact ⟨⟨hpaths, hsame _ _ hpaths⟩,
    ⟨rfl, by decide, hname, by decide, htail,
      hlast "C:\\srv/.".toList '\\' "[old].sk".toList "/\\".toList rfl (by decide) hname (by decide)
        htail⟩,
    ⟨by decide +kernel, (hwritten _ 3 _).mpr ⟨by decide +kernel, rfl⟩⟩,
    hplace _ 3, ⟨by decide, (hwhole "srv\\[red" 3).1 (by decide)⟩,
    ⟨by decide, (hwhole "[srv]/[/red]" 3).2 (by decide)⟩, hred, hfront, hforged hfront, hlost⟩

end Place

end Report
end ScriptProfiling
