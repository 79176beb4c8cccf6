import ScriptProfiling.Proofs.Json.Writing
import ScriptProfiling.Proofs.Text.Blank
import ScriptProfiling.Proofs.Trace.Reading

/-!
# Traces are read as they were written

An entry is written as one object in one line, and nothing that it says can end that line.
Blanks around it, blank lines and notes between the entries do not change what is read.
-/
namespace ScriptProfiling

namespace TraceEntry

/-- What the object of an entry has; an occurrence has no duration. -/
def toFields (e : TraceEntry) : List (String × Json) :=
  [("file", .text e.key.file), ("line", .int e.key.line), ("kind", .text e.key.kind),
    ("name", .text e.name)] ++ (e.duration.map fun d => ("duration_ns", Json.int d)).toList

def toLine (e : TraceEntry) : String := Json.toLine (.object e.toFields)

/-- The whole numbers of an entry are within the limit of digits. -/
structure Bounded (e : TraceEntry) : Prop where
  line : WithinDigits e.key.line
  duration : ∀ d ∈ e.duration, WithinDigits d

variable {e : TraceEntry}

theorem readable_toFields (h : e.Bounded) : ∀ field ∈ e.toFields, Json.Readable field.2 := by
  intro field hfield
  simp only [toFields, List.mem_append, List.mem_cons, List.not_mem_nil, or_false,
    Option.mem_toList,
    Option.map_eq_some_iff] at hfield
  rcases hfield with (rfl | rfl | rfl | rfl) | ⟨d, hd, rfl⟩
  · exact Json.readable_text _
  · exact Json.readable_int h.line
  · exact Json.readable_text _
  · exact Json.readable_text _
  · exact Json.readable_int (h.duration d hd)

theorem keys_toFields_nodup (e : TraceEntry) : (e.toFields.map Prod.fst).Nodup := by
  cases hd : e.duration <;> simp [toFields, hd]

theorem ofFields_toFields (e : TraceEntry) (line : Nat) : ofFields line e.toFields = .ok e := by
  obtain ⟨⟨file, number, kind⟩, name, duration⟩ := e
  cases duration <;> rfl

theorem parse_toLine (h : e.Bounded) (line : Nat) : parse e.toLine line = .ok e := by
  have hparse := Json.parse_toLine_object (readable_toFields h) (keys_toFields_nodup e)
  rw [parse, toLine, hparse]
  exact ofFields_toFields e line

theorem toList_toLine (e : TraceEntry) :
    e.toLine.toList = '\x7b' :: (Json.lineFields e.toFields ++ ['\x7d']) := by
  simp [toLine, Json.toLine, Json.lineChars]

end TraceEntry

namespace TraceReading

/-- Blanks that end no line. -/
structure Filler where
  chars : List Char
  blank : ∀ c ∈ chars, isBlank c = true
  oneLine : '\n' ∉ chars

def Filler.ofBlanks (cs : List Char) (h : (cs.all isBlank && !cs.contains '\n') = true) :
    Filler where
  chars := cs
  blank := List.all_eq_true.mp (Bool.and_eq_true_iff.mp h).1
  oneLine := by simpa using (Bool.and_eq_true_iff.mp h).2

/-- A line of a trace: an entry between blanks, a note behind blanks, or blanks alone. -/
inductive WrittenLine where
  | entry (before : Filler) (e : TraceEntry) (after : Filler)
  | note (before : Filler) (text : List Char) (oneLine : '\n' ∉ text)
  | blank (filler : Filler)

namespace WrittenLine

def source : WrittenLine → List Char
  | entry before e after => before.chars ++ (e.toLine.toList ++ after.chars)
  | note before text _ => before.chars ++ '#' :: text
  | blank filler => filler.chars

def held? : WrittenLine → Option TraceEntry
  | entry _ e _ => some e
  | _ => none

theorem newline_notMem_source {line : WrittenLine} (h : ∀ e ∈ line.held?, e.Bounded) :
    '\n' ∉ line.source := by
  cases line with
  | entry before e after =>
    have hfields := Json.newline_notMem_lineFields (TraceEntry.readable_toFields (h e rfl))
    simp [source, TraceEntry.toList_toLine, before.oneLine, after.oneLine, hfields]
  | note before text honeLine => simp [source, before.oneLine, honeLine]
  | blank filler => exact filler.oneLine

end WrittenLine

variable {lines : List WrittenLine}

/-- The lines that say something are those of the entries, and each comes to its entry. -/
theorem outcomes_source (h : ∀ e ∈ lines.filterMap WrittenLine.held?, e.Bounded) (number : Nat) :
    outcomes number (lines.map WrittenLine.source) =
      (lines.filterMap WrittenLine.held?).map Except.ok := by
  induction lines generalizing number with
  | nil => rfl
  | cons line lines ih =>
    rw [List.map_cons, outcomes_cons]
    cases line with
    | entry before e after =>
      have hrest := ih (fun e he => h e (List.mem_cons_of_mem _ he)) (number + 1)
      have hstrip : strip (WrittenLine.entry before e after).source = e.toLine.toList := by
        rw [WrittenLine.source, TraceEntry.toList_toLine]
        simpa using strip_between before.blank after.blank (by decide) (by decide) _
      have hquiet : saysNothing e.toLine.toList = false := by
        rw [TraceEntry.toList_toLine]
        rfl
      rw [hstrip, hquiet, String.ofList_toList, TraceEntry.parse_toLine (h e List.mem_cons_self),
        hrest]
      rfl
    | note before text honeLine =>
      have hquiet : saysNothing (strip (WrittenLine.note before text honeLine).source) = true := by
        rw [WrittenLine.source, strip_append_cons before.blank (by decide)]
        rfl
      rw [hquiet]
      exact ih h (number + 1)
    | blank filler =>
      have hquiet : saysNothing (strip (WrittenLine.blank filler).source) = true := by
        rw [WrittenLine.source, strip_eq_nil filler.blank]
        rfl
      rw [hquiet]
      exact ih h (number + 1)

/-- A trace gives back the entries that were written, in order and without a warning,
whatever they say and whatever notes and blanks stand between them and around them. The
last line may be ended: then an empty line stands behind it. -/
theorem ofText_written (lines : List WrittenLine)
    (h : ∀ e ∈ lines.filterMap WrittenLine.held?, e.Bounded) :
    ofText (joinLines (lines.map fun line => String.ofList line.source)) =
      ⟨lines.filterMap WrittenLine.held?, [], none⟩ := by
  have houtcomes : outcomes 1 (splitAt '\n' (joinLines
      (lines.map fun line => String.ofList line.source)).toList) =
      (lines.filterMap WrittenLine.held?).map Except.ok := by
    by_cases hne : lines = []
    · obtain rfl := hne
      rfl
    · have honeLine : ∀ piece ∈ lines.map WrittenLine.source, '\n' ∉ piece := by
        intro piece hpiece
        obtain ⟨line, hline, rfl⟩ := List.mem_map.mp hpiece
        refine WrittenLine.newline_notMem_source fun e he => h e ?_
        exact List.mem_filterMap.mpr ⟨line, hline, he⟩
      have hchars : (joinLines (lines.map fun line => String.ofList line.source)).toList =
          ['\n'].intercalate (lines.map WrittenLine.source) := by
        simp [joinLines, String.toList_intercalate, Function.comp_def]
      rw [hchars, splitAt_intercalate (by simpa using hne) honeLine]
      exact outcomes_source h 1
  have hnone : ∀ o ∈ (lines.filterMap WrittenLine.held?).map Except.ok, fatal? o = none := by
    intro o ho
    obtain ⟨e, -, rfl⟩ := List.mem_map.mp ho
    rfl
  rw [ofText_eq, ofLines_whole (by rwa [houtcomes]), houtcomes]
  simp [List.filterMap_map, Except.toOption, warning?, Function.comp_def]

/-- A note, an entry with a line end, quotes and a negative duration between blanks, and an
occurrence beyond the basic characters, with an empty line at the end. -/
def diary : List WrittenLine :=
  [.note (.ofBlanks [' '] (by decide)) "day 1".toList (by decide),
   .entry (.ofBlanks ['\t'] (by decide))
    ⟨⟨"a\\b.sk", -3, "on \"x\""⟩, "# one\ntwo", some (-40)⟩ (.ofBlanks [' ', '\r'] (by decide)),
   .blank (.ofBlanks [' ', ' '] (by decide)),
   .entry (.ofBlanks [] (by decide)) ⟨⟨"🙂.sk", 7, ""⟩, "é", none⟩ (.ofBlanks [] (by decide)),
   .blank (.ofBlanks [] (by decide))]

theorem ofText_diary :
    (∀ e ∈ diary.filterMap WrittenLine.held?, e.Bounded) ∧
    joinLines (diary.map fun line => String.ofList line.source) =
      " #day 1\n" ++
      "\t\x7b\"file\": \"a\\\\b.sk\", \"line\": -3, \"kind\": \"on \\\"x\\\"\", " ++
      "\"name\": \"# one\\ntwo\", \"duration_ns\": -40\x7d \r\n" ++
      "  \n" ++
      "\x7b\"file\": \"\\ud83d\\ude42.sk\", \"line\": 7, \"kind\": \"\", " ++
      "\"name\": \"\\u00e9\"\x7d\n" ∧
    ofText (joinLines (diary.map fun line => String.ofList line.source)) =
      ⟨[⟨⟨"a\\b.sk", -3, "on \"x\""⟩, "# one\ntwo", some (-40)⟩,
        ⟨⟨"🙂.sk", 7, ""⟩, "é", none⟩], [], none⟩ := by
  have hbounded : ∀ e ∈ diary.filterMap WrittenLine.held?, e.Bounded := by
    intro e he
    obtain rfl | rfl : e = ⟨⟨"a\\b.sk", -3, "on \"x\""⟩, "# one\ntwo", some (-40)⟩ ∨
        e = ⟨⟨"🙂.sk", 7, ""⟩, "é", none⟩ := by
      simpa [diary, WrittenLine.held?, eq_comm] using he
    · refine ⟨by decide +kernel, fun d hd => ?_⟩
      obtain rfl := Option.some.inj hd
      decide +kernel
    · exact ⟨by decide +kernel, nofun⟩
  exact ⟨hbounded, by decide +kernel, ofText_written diary hbounded⟩

end TraceReading
end ScriptProfiling
