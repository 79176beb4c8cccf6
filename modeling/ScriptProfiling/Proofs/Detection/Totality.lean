import ScriptProfiling.Proofs.Detection.Evaluation
import ScriptProfiling.Proofs.Number.Range
import ScriptProfiling.Proofs.Script.Waits

/-!
# When detection gives a result

Detection divides the times of records, and it writes whole numbers that have passed a
limit. It fails on a quotient that no floating-point number is near to, and on a number of
more digits than may be written; on nothing else.
-/
namespace ScriptProfiling

/-- All times of a record can be told in milliseconds, its mean time too. -/
structure Record.Measured (r : Record Int) : Prop where
  average : r.count ≠ 0 → Quotable r.total r.count
  total : Quotable r.total nanosPerMilli
  longest : Quotable r.longest nanosPerMilli
  shortest : ∀ d ∈ r.shortest, Quotable d nanosPerMilli

instance (r : Record Int) : Decidable r.Measured :=
  decidable_of_iff ((r.count ≠ 0 → Quotable r.total r.count) ∧ Quotable r.total nanosPerMilli ∧
      Quotable r.longest nanosPerMilli ∧ ∀ d ∈ r.shortest, Quotable d nanosPerMilli)
    ⟨fun ⟨haverage, htotal, hlongest, hshortest⟩ => ⟨haverage, htotal, hlongest, hshortest⟩,
      fun h => ⟨h.average, h.total, h.longest, h.shortest⟩⟩

/-- The numbers that issues of a script tell can be written. -/
structure ScriptInfo.Tellable (t : Thresholds) (s : ScriptInfo) : Prop where
  waits : ∀ line w ticks, s.waits.get? line = some w → w.ticks? = some ticks →
    Detection.aboveLimit ticks t.waitTicks = true → WithinDigits ticks
  accesses : Detection.aboveLimit s.variableAccesses t.variableCount = true →
    WithinDigits s.variableAccesses

/-- A load that stands: a number that can be a floating-point one. -/
def Value.IsLoad (v : Value) : Prop := ∃ x : Number, v = x.toValue ∧ x.toFloat.isOk = true

namespace Record

theorem isOk_millis (d : Int) : (Record.millis d).isOk = true ↔ Quotable d nanosPerMilli :=
  isOk_quotient (by decide)

variable (r : Record Int)

theorem isOk_averageMs : r.averageMs.isOk = true ↔ (r.count ≠ 0 → Quotable r.total r.count) := by
  unfold averageMs
  split
  · next h => exact iff_of_true rfl fun hne => absurd h hne
  · next h =>
    rw [isOk_map]
    exact (isOk_quotient h).trans ⟨fun hq _ => hq, fun hq => hq h⟩

theorem isOk_shortestMs :
    r.shortestMs.isOk = true ↔ ∀ d ∈ r.shortest, Quotable d nanosPerMilli := by
  unfold shortestMs
  cases r.shortest with
  | none => exact iff_of_true rfl nofun
  | some d => simpa using isOk_millis d

end Record

theorem Number.isOk_hundredths (x : Number) : x.hundredths.isOk = true ↔ x.toFloat.isOk = true := by
  unfold hundredths
  simp only [isOk_bind, isOk_pure, and_true, ← isOk_iff]

/-- A load that stands after others have been taken: the default, or one that was of use. -/
def Value.Stands (default : Number) (v : Value) : Prop :=
  v = default.toValue ∨ ∃ x, isUsableFloat x = true ∧ v = .float x

theorem Value.Stands.exists_number {default : Number} {v : Value} (h : v.Stands default) :
    ∃ x : Number, v = x.toValue := by
  rcases h with rfl | ⟨x, -, rfl⟩
  · exact ⟨default, rfl⟩
  · exact ⟨.float x, rfl⟩

theorem usableLoad?_toValue (x : Number) : usableLoad? x.toValue =
    (x.toFloat >>= fun y => pure (if y.isFinite && x.ge (.int 0) then some x else none)) := by
  cases x <;> rfl

theorem Value.isLoad_toValue {x : Number} : x.toValue.IsLoad ↔ x.toFloat.isOk = true := by
  constructor
  · rintro ⟨y, hy, hfloat⟩
    have hnumber := congrArg Value.number? hy
    rw [Number.number?_toValue, Number.number?_toValue] at hnumber
    rwa [Option.some.inj hnumber]
  · exact fun h => ⟨x, rfl, h⟩

theorem isOk_usableLoad? (x : Number) : (usableLoad? x.toValue).isOk = true ↔ x.toValue.IsLoad := by
  rw [usableLoad?_toValue, Value.isLoad_toValue]
  simp only [isOk_bind, isOk_pure, and_true, ← isOk_iff]

theorem isOk_toFloat_of_usable {x y : Number} (h : usableLoad? x.toValue = .ok (some y)) :
    y.toFloat.isOk = true := by
  rw [usableLoad?_toValue] at h
  obtain ⟨z, hz, h⟩ := bind_eq_ok.mp h
  have hsome := pure_eq_ok.mp h
  split at hsome
  · rw [← Option.some.inj hsome]
    exact isOk_iff.mpr ⟨z, hz⟩
  · cases hsome

namespace Detection

section Records

variable {t : Thresholds} {r : Record Int}

theorem isOk_highFrequency (htotal : Quotable r.total nanosPerMilli)
    (hcount : WithinDigits r.count) :
    (highFrequency t r).isOk = true := by
  obtain ⟨total, htotal⟩ := isOk_iff.mp ((Record.isOk_millis r.total).mpr htotal)
  obtain ⟨count, hcount⟩ := isOk_iff.mp ((isOk_wholeTextLimited r.count).mpr hcount)
  unfold highFrequency Record.totalMs
  rw [htotal, hcount]
  split <;> rfl

theorem isOk_checkRecord (h : r.Measured) (hcount : WithinDigits r.count) :
    (checkRecord t r).isOk = true := by
  obtain ⟨average, haverage⟩ := isOk_iff.mp (r.isOk_averageMs.mpr h.average)
  obtain ⟨longest, hlongest⟩ := isOk_iff.mp ((Record.isOk_millis r.longest).mpr h.longest)
  obtain ⟨issues, hissues⟩ := isOk_iff.mp (isOk_highFrequency (t := t) h.total hcount)
  unfold checkRecord Record.longestMs
  rw [haverage, hlongest, hissues]
  rfl

end Records

section Scripts

variable {t : Thresholds} {metrics : Metrics} {s : ScriptInfo}

theorem mem_of_firstOnLine? {file : String} {line : Int} {r : Record Int}
    (h : firstOnLine? metrics file line = some r) : r ∈ metrics.values :=
  List.mem_of_find?_eq_some h

theorem isOk_inefficientLoop (hcounts : ∀ r ∈ metrics.values, WithinDigits r.count) (line : Int) :
    (inefficientLoop t metrics s line).isOk = true := by
  unfold inefficientLoop
  split
  · rfl
  · next r hr =>
    have hmem : r ∈ metrics.values := by
      split at hr
      · exact mem_of_firstOnLine? hr
      · cases hr
    obtain ⟨count, hcount⟩ := isOk_iff.mp ((isOk_wholeTextLimited r.count).mpr (hcounts r hmem))
    rw [hcount]
    split <;> rfl

/-- A wait is told with its amount, as it was read, and with its ticks, which may have more
digits. -/
theorem isOk_longWait (hamounts : s.ShortAmounts) (line : Int) :
    (longWait t s line).isOk = true ↔
      ∀ w ticks, s.waits.get? line = some w → w.ticks? = some ticks →
        aboveLimit ticks t.waitTicks = true → WithinDigits ticks := by
  unfold longWait
  cases hw : s.waits.get? line with
  | none => exact iff_of_true rfl nofun
  | some w =>
    dsimp only
    cases hticks : w.ticks? with
    | none =>
      refine iff_of_true rfl fun v ticks hv hticks' => ?_
      rw [← Option.some.inj hv, hticks] at hticks'
      cases hticks'
    | some ticks =>
      have hall : (∀ v n, some w = some v → v.ticks? = some n →
          aboveLimit n t.waitTicks = true → WithinDigits n) ↔
          (aboveLimit ticks t.waitTicks = true → WithinDigits ticks) := by
        constructor
        · exact fun h => h w ticks rfl hticks
        · intro h v n hv hn
          rw [← Option.some.inj hv, hticks] at hn
          rwa [← Option.some.inj hn]
      obtain ⟨amount, hamount⟩ :=
        isOk_iff.mp ((isOk_wholeTextLimited w.amount).mpr (hamounts line w hw))
      rw [hall]
      dsimp only
      split
      · next habove =>
        rw [hamount]
        change (wholeTextLimited ticks >>= _).isOk = true ↔ _
        rw [isOk_bind]
        simp only [isOk_pure, and_true, ← isOk_iff, isOk_wholeTextLimited, habove, true_implies]
      · next hbelow => exact iff_of_true rfl fun habove => absurd habove hbelow

theorem isOk_checkLine (hcounts : ∀ r ∈ metrics.values, WithinDigits r.count) (line : Int) :
    (checkLine t metrics s line).isOk = true ↔ (longWait t s line).isOk = true := by
  obtain ⟨issues, hloop⟩ := isOk_iff.mp (isOk_inefficientLoop (t := t) (s := s) hcounts line)
  unfold checkLine
  rw [hloop]
  change (longWait t s line >>= _).isOk = true ↔ _
  rw [isOk_bind]
  simp only [isOk_pure, and_true, ← isOk_iff]

theorem isOk_excessiveVariables :
    (excessiveVariables t s).isOk = true ↔
      (aboveLimit s.variableAccesses t.variableCount = true → WithinDigits s.variableAccesses) := by
  unfold excessiveVariables
  split
  · next habove =>
    rw [isOk_bind]
    simp only [isOk_pure, and_true, ← isOk_iff, isOk_wholeTextLimited, habove, true_implies]
  · next hbelow => exact iff_of_true rfl fun habove => absurd habove hbelow

theorem isOk_checkScript (hcounts : ∀ r ∈ metrics.values, WithinDigits r.count)
    (hamounts : s.ShortAmounts) : (checkScript t metrics s).isOk = true ↔ s.Tellable t := by
  have hlines : ((watchedLines s).mapM (checkLine t metrics s)).isOk = true ↔
      ∀ line w ticks, s.waits.get? line = some w → w.ticks? = some ticks →
        aboveLimit ticks t.waitTicks = true → WithinDigits ticks := by
    rw [isOk_mapM]
    constructor
    · intro h line w ticks hw
      have hwatched : line ∈ watchedLines s :=
        (mem_watchedLines s line).mpr (Or.inr (Catalog.mem_keys_of_get? hw))
      have hwait := (isOk_checkLine hcounts line).mp (h line hwatched)
      exact (isOk_longWait hamounts line).mp hwait w ticks hw
    · intro h line _
      exact (isOk_checkLine hcounts line).mpr ((isOk_longWait hamounts line).mpr (h line))
  have hsplit : (checkScript t metrics s).isOk = true ↔
      ((watchedLines s).mapM (checkLine t metrics s)).isOk = true ∧
        (excessiveVariables t s).isOk = true := by
    unfold checkScript
    simp only [isOk_bind, isOk_pure, and_true, ← isOk_iff, exists_and_right]
  rw [hsplit, hlines, isOk_excessiveVariables]
  exact ⟨fun h => ⟨h.1, h.2⟩, fun h => ⟨h.waits, h.accesses⟩⟩

end Scripts

section Load

variable {metrics : Metrics} {scripts : Scripts} {t : Thresholds}

theorem mem_of_costliest? {rs : List (Record Int)} {r : Record Int} (h : costliest? rs = some r) :
    r ∈ rs := by
  rw [costliest?_eq] at h
  exact List.mem_of_find?_eq_some h

theorem isOk_checkLoad (htotals : ∀ r ∈ metrics.values, Quotable r.total nanosPerMilli)
    {x : Number} (hx : x.toFloat.isOk = true) :
    (checkLoad t metrics x).isOk = true ↔
      (x.ge t.lowLoad = false → metrics.values ≠ [] → t.lowLoad.toFloat.isOk = true) := by
  unfold checkLoad
  cases hge : x.ge t.lowLoad with
  | true => exact iff_of_true rfl nofun
  | false =>
    cases hr : costliest? metrics.values with
    | none =>
      have hvalues : metrics.values = [] := by
        by_contra hne
        obtain ⟨r, rs, hrs⟩ := List.exists_cons_of_ne_nil hne
        rw [hrs] at hr
        cases hr
      exact iff_of_true rfl fun _ hne => absurd hvalues hne
    | some r =>
      have hmem := mem_of_costliest? hr
      obtain ⟨now, hnow⟩ := isOk_iff.mp (x.isOk_hundredths.mpr hx)
      obtain ⟨total, htotal⟩ :=
        isOk_iff.mp ((Record.isOk_millis r.total).mpr (htotals r hmem))
      rw [if_neg Bool.false_ne_true, ← t.lowLoad.isOk_hundredths]
      dsimp only
      rw [hnow, Record.totalMs, htotal]
      simp only [ok_bind, isOk_bind, isOk_pure, and_true, ← isOk_iff, true_implies,
        List.ne_nil_of_mem hmem, ne_eq, not_false_eq_true]

/-- What detection makes of the load. -/
def loadIssues (t : Thresholds) (metrics : Metrics) (load : Value) : Except Fault (List Issue) := do
  match ← usableLoad? load with
  | some load => checkLoad t metrics load
  | none => .ok []

theorem isOk_loadIssues (htotals : ∀ r ∈ metrics.values, Quotable r.total nanosPerMilli)
    (x : Number) :
    (loadIssues t metrics x.toValue).isOk = true ↔ x.toValue.IsLoad ∧
      ∀ y, usableLoad? x.toValue = .ok (some y) → y.ge t.lowLoad = false → metrics.values ≠ [] →
        t.lowLoad.toFloat.isOk = true := by
  rw [← isOk_usableLoad?]
  unfold loadIssues
  cases husable : usableLoad? x.toValue with
  | error e => exact iff_of_false Bool.false_ne_true fun h => Bool.false_ne_true h.1
  | ok usable =>
    have hok : (Except.ok usable : Except Fault (Option Number)).isOk = true := rfl
    rw [hok, ok_bind]
    simp only [true_and, Except.ok.injEq]
    cases usable with
    | none => exact iff_of_true rfl fun y hy => by cases hy
    | some y =>
      simp only [Option.some.injEq, forall_eq']
      exact isOk_checkLoad htotals (isOk_toFloat_of_usable husable)

theorem found_eq (metrics : Metrics) (scripts : Scripts) (t : Thresholds) (load : Value) :
    found metrics scripts t load = (metrics.values.mapM (checkRecord t) >>= fun records =>
      scripts.values.mapM (checkScript t metrics) >>= fun scripts =>
        loadIssues t metrics load >>= fun load =>
          pure (records.flatten ++ scripts.flatten ++ load)) := by
  unfold found loadIssues
  simp only [bind_assoc]
  refine bind_congr fun records => bind_congr fun scripts => bind_congr fun usable => ?_
  cases usable <;> rfl

theorem isOk_found (load : Value) :
    (found metrics scripts t load).isOk = true ↔
      (∀ r ∈ metrics.values, (checkRecord t r).isOk = true) ∧
      (∀ s ∈ scripts.values, (checkScript t metrics s).isOk = true) ∧
      (loadIssues t metrics load).isOk = true := by
  rw [found_eq]
  simp only [isOk_bind, isOk_pure, and_true, ← isOk_iff, exists_and_right, isOk_mapM]

end Load

end Detection
end ScriptProfiling
