import ScriptProfiling.Proofs.Json.Block
import ScriptProfiling.Proofs.Partial
import ScriptProfiling.Report.Data

/-!
# The structured report is read as it was written

The data of an input has fixed names, so it is read back from its text. It keeps the texts, the
whole numbers and the rounded times of the input, each in a field of its own.

Each entry of a list is described by a structure that names its fields (`RecordEntry`, `IssueEntry`,
`ScriptEntry`), independent of how the data is put together. Reading back needs the names of an
object to be distinct, which those of the data are.
-/
namespace ScriptProfiling

/-- The value of a field of an object. -/
def Json.field? (name : String) : Json → Option Json
  | .object fields => Catalog.lookup name fields
  | _ => none

namespace Report

/-- What data tells of a record; its times are rounded to three decimal places. -/
structure RecordEntry (r : Record Int) (entry : Json) : Prop where
  file : entry.field? "file" = some (.text r.key.file)
  line : entry.field? "line" = some (.int r.key.line)
  kind : entry.field? "kind" = some (.text r.key.kind)
  name : entry.field? "name" = some (.text r.name)
  count : entry.field? "count" = some (.int r.count)
  times : ∀ time ∈ [("total_ms", r.totalMs), ("average_ms", r.averageMs), ("max_ms", r.longestMs),
    ("min_ms", r.shortestMs)], ∃ x, time.2 = .ok x ∧
      entry.field? time.1 = some (.float (x.roundPlaces 3))

structure IssueEntry (i : Issue) (entry : Json) : Prop where
  kind : entry.field? "kind" = some (.text i.kind.name)
  severity : entry.field? "severity" = some (.text i.severity.name)
  file : entry.field? "file" = some (.text i.file)
  line : entry.field? "line" = some (.int i.line)
  description : entry.field? "description" = some (.text i.description)
  suggestion : entry.field? "suggestion" = some (.text i.suggestion)

structure ScriptEntry (s : ScriptInfo) (entry : Json) : Prop where
  file : entry.field? "file" = some (.text s.path)
  counts : ∀ count ∈ [("lines", (s.lineCount : Int)), ("events", s.events),
    ("functions", s.functions), ("commands", s.commands), ("loops", s.loops),
    ("variable_accesses", s.variableAccesses)], entry.field? count.1 = some (.int count.2)

/-- What data tells of an input: the records, issues and scripts in their order. -/
structure DataOf (input : ReportInput) (json : Json) : Prop where
  duration : ∃ entry, json.field? "duration_ms" = some entry ∧
    entry.toValue = input.durationMs.thousandths.toValue
  load : ∃ entry, json.field? "current_load" = some entry ∧ entry.toValue = input.load
  records : ∃ entries, json.field? "records" = some (.list entries) ∧
    List.Forall₂ RecordEntry input.metrics.values entries
  issues : ∃ entries, json.field? "issues" = some (.list entries) ∧
    List.Forall₂ IssueEntry input.issues entries
  scripts : ∃ entries, json.field? "scripts" = some (.list entries) ∧
    List.Forall₂ ScriptEntry input.scripts.values entries

section Parts

variable {input : ReportInput}

theorem recordJson_eq_ok {r : Record Int} {entry : Json} (h : recordJson r = .ok entry) :
    ∃ total average longest shortest, r.totalMs = .ok total ∧ r.averageMs = .ok average ∧
      r.longestMs = .ok longest ∧ r.shortestMs = .ok shortest ∧ entry = .object [
        ("file", .text r.key.file), ("line", .int r.key.line), ("kind", .text r.key.kind),
        ("name", .text r.name), ("count", .int r.count), ("total_ms", .float (total.roundPlaces 3)),
        ("average_ms", .float (average.roundPlaces 3)), ("max_ms", .float (longest.roundPlaces 3)),
        ("min_ms", .float (shortest.roundPlaces 3))] := by
  obtain ⟨_, hfirst, h⟩ := bind_eq_ok.mp h
  obtain ⟨_, hsecond, h⟩ := bind_eq_ok.mp h
  obtain ⟨_, hthird, h⟩ := bind_eq_ok.mp h
  obtain ⟨_, hfourth, h⟩ := bind_eq_ok.mp h
  obtain rfl := pure_eq_ok.mp h
  obtain ⟨total, htotal, rfl⟩ := map_eq_ok.mp hfirst
  obtain ⟨average, haverage, rfl⟩ := map_eq_ok.mp hsecond
  obtain ⟨longest, hlongest, rfl⟩ := map_eq_ok.mp hthird
  obtain ⟨shortest, hshortest, rfl⟩ := map_eq_ok.mp hfourth
  exact ⟨total, average, longest, shortest, htotal, haverage, hlongest, hshortest, rfl⟩

theorem recordEntry {r : Record Int} {entry : Json} (h : recordJson r = .ok entry) :
    RecordEntry r entry := by
  obtain ⟨total, average, longest, shortest, htotal, haverage, hlongest, hshortest, rfl⟩ :=
    recordJson_eq_ok h
  refine ⟨rfl, rfl, rfl, rfl, rfl, ?_⟩
  simp only [List.forall_mem_cons]
  exact ⟨⟨total, htotal, rfl⟩, ⟨average, haverage, rfl⟩, ⟨longest, hlongest, rfl⟩,
    ⟨shortest, hshortest, rfl⟩, List.forall_mem_nil _⟩

theorem issueEntry (i : Issue) : IssueEntry i (issueJson i) := ⟨rfl, rfl, rfl, rfl, rfl, rfl⟩

theorem scriptEntry (s : ScriptInfo) : ScriptEntry s (scriptJson s) := by
  refine ⟨rfl, ?_⟩
  simp only [List.forall_mem_cons]
  exact ⟨rfl, rfl, rfl, rfl, rfl, rfl, List.forall_mem_nil _⟩

theorem toValue_numberJson (x : Number) : (numberJson x).toValue = x.toValue := by
  cases x <;> rfl

theorem keysDistinct_numberJson (x : Number) : (numberJson x).KeysDistinct := by
  cases x with
  | int n => exact .int n
  | float x => exact .float x
  | flag b => exact .bool b

theorem valueJson_toValue (x : Number) : valueJson x.toValue = .ok (numberJson x) := by
  cases x <;> rfl

theorem valueJson_eq_ok {v : Value} (h : v = .null ∨ ∃ x : Number, v = x.toValue) {entry : Json}
    (hentry : valueJson v = .ok entry) : entry.toValue = v ∧ entry.KeysDistinct := by
  rcases h with rfl | ⟨x, rfl⟩
  · obtain rfl := Except.ok.inj hentry
    exact ⟨rfl, .null⟩
  · rw [valueJson_toValue] at hentry
    obtain rfl := Except.ok.inj hentry
    exact ⟨toValue_numberJson x, keysDistinct_numberJson x⟩

theorem data_parts {json : Json} (h : data input = .ok json) :
    ∃ records load, input.metrics.values.mapM recordJson = .ok records ∧
      valueJson input.load = .ok load ∧ json = .object [
        ("duration_ms", numberJson input.durationMs.thousandths), ("current_load", load),
        ("records", .list records), ("issues", .list (input.issues.map issueJson)),
        ("scripts", .list (input.scripts.values.map scriptJson))] := by
  obtain ⟨records, hrecords, h⟩ := bind_eq_ok.mp h
  obtain ⟨load, hload, h⟩ := bind_eq_ok.mp h
  exact ⟨records, load, hrecords, hload, (pure_eq_ok.mp h).symm⟩

theorem data_eq_ok {data : Json} (h : Report.data input = .ok data) :
    ∃ records, input.metrics.values.mapM recordJson = .ok records ∧
      data.field? "issues" = some (.list (input.issues.map issueJson)) ∧
      data.field? "records" = some (.list records) ∧
      data.field? "scripts" = some (.list (input.scripts.values.map scriptJson)) := by
  obtain ⟨records, load, hrecords, -, rfl⟩ := data_parts h
  exact ⟨records, hrecords, rfl, rfl, rfl⟩

theorem dataOf_data {json : Json}
    (hload : input.load = .null ∨ ∃ x : Number, input.load = x.toValue)
    (h : data input = .ok json) : DataOf input json := by
  obtain ⟨records, load, hrecords, hentry, rfl⟩ := data_parts h
  constructor
  case duration => exact ⟨_, rfl, toValue_numberJson _⟩
  case load => exact ⟨_, rfl, (valueJson_eq_ok hload hentry).1⟩
  case records => exact ⟨_, rfl, forall₂_of_mapM (fun _ _ _ => recordEntry) hrecords⟩
  case issues =>
    refine ⟨_, rfl, ?_⟩
    rw [List.forall₂_map_right_iff, List.forall₂_same]
    exact fun i _ => issueEntry i
  case scripts =>
    refine ⟨_, rfl, ?_⟩
    rw [List.forall₂_map_right_iff, List.forall₂_same]
    exact fun s _ => scriptEntry s

end Parts

section Names

open Json (KeysDistinct)

variable {input : ReportInput}

theorem keysDistinct_recordJson {r : Record Int} {entry : Json} (h : recordJson r = .ok entry) :
    entry.KeysDistinct := by
  obtain ⟨total, average, longest, shortest, -, -, -, -, rfl⟩ := recordJson_eq_ok h
  have hkeys : ["file", "line", "kind", "name", "count", "total_ms", "average_ms", "max_ms",
    "min_ms"].Nodup := by decide
  refine .object hkeys ?_
  simp only [List.forall_mem_cons]
  exact ⟨.text _, .int _, .text _, .text _, .int _, .float _, .float _, .float _, .float _,
    List.forall_mem_nil _⟩

theorem keysDistinct_issueJson (i : Issue) : (issueJson i).KeysDistinct := by
  have hkeys : ["kind", "severity", "file", "line", "description", "suggestion"].Nodup := by decide
  refine .object hkeys ?_
  simp only [List.forall_mem_cons]
  exact ⟨.text _, .text _, .text _, .int _, .text _, .text _, List.forall_mem_nil _⟩

theorem keysDistinct_scriptJson (s : ScriptInfo) : (scriptJson s).KeysDistinct := by
  have hkeys : ["file", "lines", "events", "functions", "commands", "loops",
    "variable_accesses"].Nodup := by decide
  refine .object hkeys ?_
  simp only [List.forall_mem_cons]
  exact ⟨.text _, .int _, .int _, .int _, .int _, .int _, .int _, List.forall_mem_nil _⟩

theorem keysDistinct_data {json : Json}
    (hload : input.load = .null ∨ ∃ x : Number, input.load = x.toValue)
    (h : data input = .ok json) : json.KeysDistinct := by
  obtain ⟨records, load, hrecords, hentry, rfl⟩ := data_parts h
  have hkeys : ["duration_ms", "current_load", "records", "issues", "scripts"].Nodup := by decide
  refine .object hkeys ?_
  simp only [List.forall_mem_cons]
  refine ⟨keysDistinct_numberJson _, (valueJson_eq_ok hload hentry).2, .list ?_, .list ?_, .list ?_,
    List.forall_mem_nil _⟩
  · intro entry hmem
    obtain ⟨r, -, hr⟩ := exists_of_mem_mapM hrecords hmem
    exact keysDistinct_recordJson hr
  · exact List.forall_mem_map.mpr fun i _ => keysDistinct_issueJson i
  · exact List.forall_mem_map.mpr fun s _ => keysDistinct_scriptJson s

end Names

section Text

variable {input : ReportInput} {text : String}

/-- Where the structured report of an input is given as text, it is in basic characters only. What
is read from it is the data of the input, with every text character for character, every whole
number and every floating-point number as it is. -/
theorem dataText_faithful (hload : input.load = .null ∨ ∃ x : Number, input.load = x.toValue)
    (h : dataText input = .ok text) :
    (∀ c ∈ text.toList, c.toNat < 128) ∧
      ∃ json, data input = .ok json ∧ Json.parse text = .ok json ∧ DataOf input json := by
  obtain ⟨json, hdata, htext⟩ := bind_eq_ok.mp h
  have hdistinct := keysDistinct_data hload hdata
  refine ⟨fun c hc => ?_, json, hdata, Json.parse_toBlock hdistinct htext, dataOf_data hload hdata⟩
  rcases Json.chars_toBlock hdistinct htext c hc with hprinted | rfl
  · exact hprinted.2.trans (by decide)
  · decide

/-- An input with marks, line ends and characters beyond the basic ones in its texts. -/
def quotedInput : ReportInput where
  metrics := .ofList [(⟨"plugins/\"sk\\.sk", 3, "event"⟩,
    ⟨⟨"plugins/\"sk\\.sk", 3, "event"⟩, "on \n😀 join", 3, 5000000, 2500000, some 1234567⟩)]
  issues := [⟨.slowEvent, .critical, "é.sk", -3, "tab\t and 😀", "\\u0041", none⟩]
  scripts := .ofList [("é.sk", ScriptInfo.ofFacts "é.sk" ["on load:"] [])]
  durationMs := .float (.ofIntNearest 60001)
  load := .float (.neg (.zero false))

theorem dataText_faithful_quotedInput : ∃ text json, dataText quotedInput = .ok text ∧
    (∀ c ∈ text.toList, c.toNat < 128) ∧ Json.parse text = .ok json ∧ DataOf quotedInput json := by
  have hload : quotedInput.load = .null ∨ ∃ x : Number, quotedInput.load = x.toValue :=
    Or.inr ⟨.float (.neg (.zero false)), rfl⟩
  have hgiven : (dataText quotedInput).isOk = true := by decide +kernel
  obtain ⟨text, htext⟩ := isOk_iff.mp hgiven
  obtain ⟨hbasic, json, -, hparse, hentries⟩ := dataText_faithful hload htext
  exact ⟨text, json, htext, hbasic, hparse, hentries⟩

end Text

end Report
end ScriptProfiling
