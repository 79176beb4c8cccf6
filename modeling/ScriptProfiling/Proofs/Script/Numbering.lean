import ScriptProfiling.Proofs.Script.Consistency
import ScriptProfiling.Proofs.Text.LineEnds
import ScriptProfiling.Proofs.Text.Utf8
import ScriptProfiling.Script.Discovery

/-!
# The numbers of script lines

Executions are told under the line numbers of a file, loops under those of a script. The two
number the same lines unless the file has line ends that only scripts have: then each of these
puts the numbers of all later lines up by one, and what follows it in its own line is cut off.
-/
namespace ScriptProfiling

/-- How the lines that a script shows answer to those of its file. -/
structure Numbered (text : List Char) (lines shown : List (List Char)) : Prop where
  file : CutInto endsFileLine text lines
  script : CutInto endsScriptLine text shown
  /-- The line ends of text files may all be line feeds before a script is cut. -/
  plain : CutInto endsScriptLine (plainEnds text) shown
  same : shown = lines ↔ ∀ c ∈ text, endsScriptOnly c = false
  place : ∀ (k : Nat) (line : List Char), lines[k]? = some line →
    shown[k + shiftBefore lines k]? = some (beginning line)
  /-- A loop of a line of the file has the number of that line and as much more as the line has
  been put up. -/
  loops : ∀ (path : String) (info : ScriptInfo),
    ScriptInfo.ofLines path (shown.map String.ofList) = .ok info →
    ∀ (k : Nat) (line : List Char), lines[k]? = some line →
      (((k + shiftBefore lines k : Nat) : Int) + 1 ∈ info.loopLines ↔
        Line.hasLoop (beginning line) = true)

section Numbering

variable {text line : List Char} {shown : List (List Char)} {path : String} {info : ScriptInfo}
  {n : Nat}

theorem mem_loopLines_of_line (h : ScriptInfo.ofLines path (shown.map String.ofList) = .ok info)
    (hline : shown[n]? = some line) :
    (n : Int) + 1 ∈ info.loopLines ↔ Line.hasLoop line = true := by
  have hshown : (shown.map String.ofList)[n]? = some (String.ofList line) := by
    rw [List.getElem?_map, hline, Option.map_some]
  have hfinds : Line.Finds (String.ofList line) .loop ↔ Line.hasLoop line = true := by
    rw [Line.Finds, String.toList_ofList]
  obtain ⟨-, rfl⟩ := ScriptInfo.ofLines_eq_ok_iff.mp h
  rw [ScriptInfo.mem_loopLines_iff, ← hfinds]
  constructor
  · rintro ⟨m, other, hnumber, hother, hloop⟩
    obtain rfl : n = m := by omega
    obtain rfl := Option.some.inj (hshown.symm.trans hother)
    exact hloop
  · intro hloop
    exact ⟨n, _, rfl, hshown, hloop⟩

theorem numbered (text : List Char) : Numbered text (fileLines text) (scriptLines text) where
  file := (cutInto_iff rfl).mpr rfl
  script := (cutInto_iff rfl).mpr rfl
  plain := (cutInto_iff rfl).mpr (cutLines_plainEnds rfl rfl [] text)
  same := scriptLines_eq_fileLines_iff
  place _ _ hline := CutInto.getElem?_scriptLines ((cutInto_iff rfl).mpr rfl) hline
  loops _ _ hinfo _ _ hline :=
    mem_loopLines_of_line hinfo (CutInto.getElem?_scriptLines ((cutInto_iff rfl).mpr rfl) hline)

end Numbering

/-- The lines of a script file, whatever its bytes: its text is cut at the line ends of scripts.
They have the numbers that a trace gives the lines of the same file exactly if the file has no
line end that only scripts have. -/
theorem readScript_numbered {t : Tree} {cwd : Path} {path : String} {content : List UInt8}
    (h : t.read cwd path = .ok content) :
    ∃ lines shown, Numbered (decodeLenient content) lines shown ∧
      readScript t cwd path = .ok (shown.map String.ofList) ∧
      ∀ text, decodeUtf8 content = .ok text → loadTrace t cwd path = .ofLines 1 lines := by
  refine ⟨_, _, numbered (decodeLenient content), ?_, ?_⟩
  · rw [readScript, h]
  · intro text htext
    rw [loadTrace, h, decodeLenient_of_decodeUtf8 htext]
    exact TraceReading.ofBytes_of_decodeUtf8 htext

/-- A form feed stands in the first line of this file and a loop in its second. -/
def pagedScript : List UInt8 := "a\x0cb\nloop all players:\n".toList.map fun c => c.toNat.toUInt8

def pagedTree : Tree := ⟨[(["s", "a.sk"], .file pagedScript)]⟩

/-- A trace has the loop in line 2 of the file, the script in line 3. -/
theorem readScript_numbered_paged :
    pagedTree.read ⟨.single, ["s"]⟩ "a.sk" = .ok pagedScript ∧
      decodeUtf8 pagedScript = .ok (decodeLenient pagedScript) ∧
      ∃ lines shown, Numbered (decodeLenient pagedScript) lines shown ∧
        lines = ["a\x0cb".toList, "loop all players:".toList] ∧
        shown = ["a".toList, "b".toList, "loop all players:".toList] ∧
        readScript pagedTree ⟨.single, ["s"]⟩ "a.sk" = .ok ["a", "b", "loop all players:"] ∧
        loadTrace pagedTree ⟨.single, ["s"]⟩ "a.sk" = .ofLines 1 lines ∧
        ∀ info, ScriptInfo.ofLines "/s/a.sk" ["a", "b", "loop all players:"] = .ok info →
          3 ∈ info.loopLines := by
  have hcontent : pagedTree.read ⟨.single, ["s"]⟩ "a.sk" = .ok pagedScript := rfl
  have htext : decodeUtf8 pagedScript = .ok (decodeLenient pagedScript) := by decide +kernel
  obtain ⟨lines, shown, hnumbered, hread, htrace⟩ := readScript_numbered hcontent
  obtain rfl : _ = lines := (cutInto_iff rfl).mp hnumbered.file
  obtain rfl : _ = shown := (cutInto_iff rfl).mp hnumbered.script
  refine ⟨hcontent, htext, _, _, hnumbered, by decide +kernel, by decide +kernel, hread,
    htrace _ htext, fun info hinfo => ?_⟩
  exact (hnumbered.loops "/s/a.sk" info hinfo 1 "loop all players:".toList rfl).mpr
    (by decide +kernel)

end ScriptProfiling
