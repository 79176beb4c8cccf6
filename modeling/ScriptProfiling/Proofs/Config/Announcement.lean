import ScriptProfiling.CommandLine.Run
import ScriptProfiling.Proofs.Config.Refusal
import ScriptProfiling.Proofs.Markup.Verbatim

/-!
# How settings that cannot be loaded are announced

What is told of a mistake is announced as markup, behind a styled word. So it is read as markup
itself: the announcement shows what the message shows, and that is the message exactly if it is
verbatim. What is told of a table of thresholds is not: the name of the table stands in it as a tag.
-/
namespace ScriptProfiling

section Tags

variable {before behind body : List Char}

/-- A tag of a template, with quiet text on both sides, which nothing escapes. -/
theorem pieces_around_tag (hbefore : Quiet before) (hbody : IsBody body) (hbehind : Quiet behind)
    (rest : List Char) :
    pieces (before ++ '[' :: (body ++ ']' :: (behind ++ rest))) =
      before.map Piece.char ++ Piece.tag 0 body :: (behind.map .char ++ pieces rest) := by
  have htag : pieces ('[' :: (body ++ ']' :: (behind ++ rest))) =
      .tag 0 body :: pieces (behind ++ rest) :=
    pieces_tag 0 (tagBody?_of_isBody hbody _)
  rw [pieces_flat_append hbefore.flat, htag, pieces_flat_append hbehind.flat]

theorem display_around_tag (hbefore : Quiet before) (hbehind : Quiet behind) (body : List Char)
    (ps : List Piece) :
    display (before.map Piece.char ++ .tag 0 body :: (behind.map .char ++ ps)) =
      before ++ (behind ++ display ps) := by
  rw [hbefore.flat.display_append, display, if_neg (by simp), hbehind.flat.display_append]
  rfl

theorem obey_around_tag {tags after : List OpenTag}
    (h : Scanner.follow tags false body = .ok after) (before behind : List Char)
    (ps : List Piece) :
    (before.map Piece.char ++ Piece.tag 0 body :: (behind.map Piece.char ++ ps)).foldlM
      Piece.obey tags = ps.foldlM Piece.obey after := by
  have htag : Piece.obey tags (.tag 0 body) = .ok after := h
  rw [(still_chars before).foldlM, List.foldlM_cons, htag, ok_bind, (still_chars behind).foldlM]

end Tags

namespace CommandLine

variable {message reason out : String}

theorem toList_announcement (message : String) : (announcement message).toList =
    [] ++ '[' :: ("red".toList ++ ']' :: ("Error:".toList ++
      ([] ++ '[' :: ('/' :: "red".toList ++ ']' :: (" ".toList ++ message.toList))))) := by
  have hstart : "[red]Error:[/red] ".toList = '[' :: ("red".toList ++ ']' ::
      ("Error:".toList ++ '[' :: ('/' :: "red".toList ++ ']' :: " ".toList))) := by decide
  have htext : (announcement message).toList = "[red]Error:[/red] ".toList ++ message.toList :=
    String.toList_append
  rw [htext, hstart]
  simp only [List.append_assoc, List.cons_append, List.nil_append]

/-- The pieces of an announcement are a styled word, a blank and the pieces of the message. -/
theorem pieces_announcement (message : String) :
    pieces (announcement message).toList =
      [].map Piece.char ++ .tag 0 "red".toList :: ("Error:".toList.map .char ++
        ([].map .char ++ .tag 0 ('/' :: "red".toList) :: (" ".toList.map .char ++
          pieces message.toList))) := by
  have hstyle : IsStyle "red" := by decide +kernel
  rw [toList_announcement, pieces_around_tag (by decide) hstyle.body (by decide),
    pieces_around_tag (by decide) (Scanner.isBody_close hstyle) (by decide)]

/-- The style of an announcement is closed before the message begins. -/
theorem obey_announcement (message : String) :
    (pieces (announcement message).toList).foldlM Piece.obey [] =
      (pieces message.toList).foldlM Piece.obey [] := by
  have hstyle : IsStyle "red" := by decide +kernel
  have hopen := Scanner.follow_style hstyle []
  have hfound : closeTag? "red" [⟨"red", []⟩] = some (⟨"red", []⟩, []) := if_pos rfl
  have hclose : Scanner.follow [⟨"red", []⟩] false ('/' :: "red".toList) = .ok [] :=
    Scanner.follow_close hstyle hfound rfl
  rw [pieces_announcement, obey_around_tag hopen, obey_around_tag hclose]

theorem display_announcement (message : String) :
    display (pieces (announcement message).toList) =
      "Error: ".toList ++ display (pieces message.toList) := by
  rw [pieces_announcement, display_around_tag (by decide) (by decide),
    display_around_tag (by decide) (by decide)]
  rfl

/-- An announcement shows what the message shows, if that can be read. -/
theorem stripMarkup_announcement : stripMarkup (announcement message) = .ok out ↔
    ∃ plain, stripMarkup message = .ok plain ∧ out = "Error: " ++ plain := by
  have hvisible : visible "Error: ".toList = "Error: ".toList := by decide
  have hout : ∀ plain : String, out = "Error: " ++ plain ↔
      out.toList = "Error: ".toList ++ plain.toList := by
    intro plain
    rw [← String.toList_append, String.toList_inj]
  simp only [stripMarkup_eq_ok_iff, obey_announcement, display_announcement, visible_append,
    hvisible, hout]
  constructor
  · rintro ⟨hobeyed, h⟩
    have hshown := String.toList_ofList (l := visible (display (pieces message.toList)))
    exact ⟨_, ⟨hobeyed, hshown⟩, by rw [h, hshown]⟩
  · rintro ⟨plain, ⟨hobeyed, hplain⟩, h⟩
    exact ⟨hobeyed, by rw [h, hplain]⟩

theorem announcement_eq_iff :
    stripMarkup (announcement message) = .ok ("Error: " ++ message) ↔ Verbatim message.toList := by
  rw [← stripMarkup_eq_self_iff, stripMarkup_announcement]
  constructor
  · rintro ⟨plain, hplain, heq⟩
    have htext : message.toList = plain.toList := by
      have hboth := congrArg String.toList heq
      rw [String.toList_append, String.toList_append] at hboth
      exact List.append_cancel_left hboth
    rwa [← String.toList_inj.mp htext] at hplain
  · intro h
    exact ⟨message, h, rfl⟩

section Table

theorem toList_table (reason : String) : (Settings.tableStart ++ reason).toList =
    "Invalid ".toList ++ '[' :: ("thresholds".toList ++ ']' ::
      (" config: ".toList ++ reason.toList)) := by
  have hstart : Settings.tableStart.toList = "Invalid ".toList ++ '[' ::
      ("thresholds".toList ++ ']' :: " config: ".toList) := by decide
  rw [String.toList_append, hstart]
  simp only [List.append_assoc, List.cons_append]

theorem not_verbatim_table (reason : String) :
    ¬ Verbatim (Settings.tableStart ++ reason).toList := by
  intro h
  have hstyle : IsStyle "thresholds" := by decide +kernel
  refine h.noTag ⟨"thresholds".toList, hstyle.body, "Invalid ".toList,
    " config: ".toList ++ reason.toList, ?_⟩
  rw [toList_table]
  simp only [List.append_assoc, List.cons_append, List.nil_append]

/-- All that is lost of such a message is the name of the table. -/
theorem stripMarkup_table (h : Verbatim reason.toList) :
    stripMarkup (Settings.tableStart ++ reason) = .ok ("Invalid  config: " ++ reason) := by
  have hstyle : IsStyle "thresholds" := by decide +kernel
  have hopen := Scanner.follow_style hstyle []
  have hvisible : visible "Invalid ".toList = "Invalid ".toList ∧
      visible " config: ".toList = " config: ".toList := by decide
  rw [stripMarkup_eq_ok_iff, toList_table,
    pieces_around_tag (by decide) hstyle.body (by decide), obey_around_tag hopen,
    display_around_tag (by decide) (by decide), visible_append, visible_append, hvisible.1,
    hvisible.2, h.display_eq, h.visible_eq]
  refine ⟨⟨_, h.obeyed _⟩, ?_⟩
  rw [String.toList_append, ← List.append_assoc]
  rfl

end Table

/-- Settings that cannot be loaded for a mistake in the configuration end the run with an
announcement, which shows what the message shows as markup. That is the message word for word
exactly if it has no tag, no backslash before a bracket and nothing that a terminal obeys. What is
told of a table of thresholds is never shown like that: the announcement lacks the name of the
table, and nothing else if the reason is verbatim. -/
theorem failure_announced {w : Surroundings} {named : Option String}
    {overrides : Settings.Arguments} {f : Fault} (h : Settings.load w named overrides = .error f)
    (hours : f.OfConfiguration) :
    configure w named overrides = (do
      printMarkup (announcement f.message)
      Run.ending .failed) ∧
    (∀ out, stripMarkup (announcement f.message) = .ok out ↔
      ∃ plain, stripMarkup f.message = .ok plain ∧ out = "Error: " ++ plain) ∧
    (stripMarkup (announcement f.message) = .ok ("Error: " ++ f.message) ↔
      Verbatim f.message.toList) ∧
    ∀ found g, Settings.gather w named = .ok found → (found.update overrides).limits = .error g →
      f.message = "Invalid [thresholds] config: " ++ g.message ∧
      stripMarkup (announcement f.message) ≠ .ok ("Error: " ++ f.message) ∧
      (Verbatim g.message.toList → stripMarkup (announcement f.message) =
        .ok ("Error: Invalid  config: " ++ g.message)) := by
  refine ⟨?_, fun out => stripMarkup_announcement, announcement_eq_iff, ?_⟩
  · obtain ⟨cause, rfl, -⟩ := hours
    rw [configure, h]
    rfl
  · intro found g hgather hlimits
    obtain rfl := Except.error.inj (h.symm.trans (Settings.load_of_limits hgather hlimits))
    refine ⟨rfl, fun hshown => ?_, fun hreason => ?_⟩
    · exact not_verbatim_table g.message (announcement_eq_iff.mp hshown)
    · refine stripMarkup_announcement.mpr ⟨_, stripMarkup_table hreason, ?_⟩
      rw [← String.append_assoc]
      rfl

/-- A project file with a limit of nothing. -/
def limitless : Surroundings where
  files := ⟨[(["work", "skript-profiler.toml"],
    .file (encodeUtf8 "[thresholds]\nslow_execution_ms = 0\n"))]⟩
  cwd := ⟨.single, ["work"]⟩
  home := "/home/ada"
  environment := []

/-- The limit is told of without the name of its table, and a file that is not there word for
word. -/
theorem failure_announced_limitless :
    (∃ f, Settings.load limitless none [] = .error f ∧ f.OfConfiguration ∧
      f.message = "Invalid [thresholds] config: slow_execution_ms must be positive" ∧
      stripMarkup (announcement f.message) =
        .ok "Error: Invalid  config: slow_execution_ms must be positive") ∧
    ∃ f, Settings.load limitless (some "lost.toml") [] = .error f ∧ f.OfConfiguration ∧
      f.message = "Config file not found: lost.toml" ∧
      stripMarkup (announcement f.message) = .ok "Error: Config file not found: lost.toml" := by
  constructor
  · have hlimits : ∃ found, (Settings.gather limitless none).toOption = some found ∧
        ∃ g, error? (found.update []).limits = some g ∧
          g.message = "slow_execution_ms must be positive" := by decide +kernel
    obtain ⟨found, hgather, g, hlimits, hg⟩ := hlimits
    have hgather := toOption_eq_some.mp hgather
    have hlimits := error?_eq_some.mp hlimits
    have hours := Fault.ofConfiguration_configuration (Settings.tableStart ++ g.message)
    obtain ⟨-, -, -, htable⟩ :=
      failure_announced (Settings.load_of_limits hgather hlimits) hours
    obtain ⟨hmessage, -, hshown⟩ := htable found g hgather hlimits
    rw [hg] at hshown
    refine ⟨_, Settings.load_of_limits hgather hlimits, hours, ?_, ?_⟩
    · rw [hmessage, hg]
      rfl
    · rw [hg]
      exact hshown (by decide +kernel)
  · have hlost : ∃ f, error? (Settings.load limitless (some "lost.toml") []) = some f ∧
        f.cls = .failure .configuration ∧ f.message = "Config file not found: lost.toml" := by
      decide +kernel
    obtain ⟨f, hload, hcls, hmessage⟩ := hlost
    have hload := error?_eq_some.mp hload
    have hours := Fault.ofConfiguration_of_cls hcls
    obtain ⟨-, -, hexact, -⟩ := failure_announced hload hours
    rw [hmessage] at hexact
    refine ⟨f, hload, hours, hmessage, ?_⟩
    rw [hmessage]
    exact hexact.mpr (by decide +kernel)

end CommandLine
end ScriptProfiling
