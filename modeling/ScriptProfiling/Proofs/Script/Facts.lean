import ScriptProfiling.Proofs.Partial
import ScriptProfiling.Proofs.Script.Statement
import ScriptProfiling.Script.Info

/-!
# What lines tell

Every line tells its facts, whatever it holds, but for one obstacle: the amount of its wait
is read under a limit of digits. A script fails with the first line that exceeds the limit.
-/
namespace ScriptProfiling

/-- The wait that a line writes, under no limit of digits. -/
def Line.RawWait.wait (raw : Line.RawWait) : Wait :=
  ⟨digitsValue raw.digits, String.ofList raw.unit⟩

namespace LineFacts

open Line

/-- The facts of a line under no limit of digits. -/
def told (line : String) : LineFacts where
  event? := (Line.event? line.toList).map String.ofList
  function? := (Line.function? line.toList).map String.ofList
  command? := (Line.command? line.toList).map String.ofList
  loop := hasLoop line.toList
  wait? := (Line.wait? line.toList).map RawWait.wait
  variableAccesses := Line.variableAccesses line.toList

/-- A line whose wait has this number of digits, which is more than the limit. -/
def Exceeds (line : String) (digits : Nat) : Prop :=
  digitLimit < digits ∧
    ∃ s : Statement line.toList, s.Leftmost ∧ s.wording.digits.length = digits

def Overlong (line : String) : Prop := ∃ digits, Exceeds line digits

variable {line : String} {f : LineFacts} {fault : Fault} {digits : Nat}

theorem exceeds_iff : Exceeds line digits ↔ digitLimit < digits ∧
    ∃ raw, Line.wait? line.toList = some raw ∧ raw.digits.length = digits := by
  rw [Exceeds, and_congr_right_iff]
  intro _
  constructor
  · rintro ⟨s, hs, rfl⟩
    exact ⟨s.wording.raw, wait?_eq_some_iff.mpr ⟨s, hs, rfl⟩, rfl⟩
  · rintro ⟨raw, hraw, rfl⟩
    obtain ⟨s, hs, rfl⟩ := wait?_eq_some_iff.mp hraw
    exact ⟨s, hs, rfl⟩

/-- A line that waits for as many ticks as a number of ones says. -/
def longLine (front : String) (digits : Nat) : String :=
  String.ofList (front.toList ++
    ("wait".toList ++ ([' '] ++ (List.replicate digits '1' ++ ([' '] ++ ("ticks".toList ++ []))))))

/-- Nothing before the wait may begin one. -/
theorem exceeds_longLine {front : String} (hlimit : digitLimit < digits)
    (hfront : front.toList.any (isLetter 'w') = false)
    (hfree : startsWord front.toList.getLast? = true) : Exceeds (longLine front digits) digits := by
  refine ⟨hlimit, ⟨front.toList, _, String.toList_ofList, startsWord_iff.mp hfree, ⟨_, _,
    List.replicate digits '1', _, _, _, rfl, by decide, by decide, by simp; decide, ?_, ?_,
    by simp; decide, ⟨"tick", by decide, by decide⟩, by simp [Stops]⟩⟩, ?_, List.length_replicate⟩
  · rw [Ne, List.replicate_eq_nil_iff]
    omega
  · intro c hc
    rw [List.eq_of_mem_replicate hc]
    decide
  · exact fun other => other.length_le String.toList_ofList (by simpa using hfront)

theorem overlong_iff :
    Overlong line ↔ ∃ raw ∈ Line.wait? line.toList, digitLimit < raw.digits.length := by
  constructor
  · rintro ⟨digits, h⟩
    obtain ⟨hlimit, raw, hraw, rfl⟩ := exceeds_iff.mp h
    exact ⟨raw, hraw, hlimit⟩
  · rintro ⟨raw, hraw, hlimit⟩
    exact ⟨_, exceeds_iff.mpr ⟨hlimit, raw, hraw, rfl⟩⟩

instance (line : String) : Decidable (Overlong line) := decidable_of_iff' _ overlong_iff

theorem ofLine_cases (line : String) :
    (¬ Overlong line ∧ ofLine line = .ok (told line)) ∨
      ∃ digits, Exceeds line digits ∧ ofLine line = .error (.numeralTooLong digits) := by
  cases hwait : Line.wait? line.toList with
  | none =>
    left
    constructor
    · simp [overlong_iff, hwait]
    · simp only [ofLine, told, hwait]
      rfl
  | some raw =>
    by_cases hlimit : digitLimit < raw.digits.length
    · right
      refine ⟨_, exceeds_iff.mpr ⟨hlimit, raw, hwait, rfl⟩, ?_⟩
      simp only [ofLine, hwait, waitOf, if_pos hlimit]
      rfl
    · left
      constructor
      · simpa [overlong_iff, hwait] using hlimit
      · simp only [ofLine, told, hwait, waitOf, if_neg hlimit]
        rfl

theorem ofLine_eq_ok : ofLine line = .ok f ↔ ¬ Overlong line ∧ told line = f := by
  rcases ofLine_cases line with ⟨hshort, hok⟩ | ⟨digits, hexceeds, herror⟩
  · simp [hok, hshort]
  · have hlong : Overlong line := ⟨digits, hexceeds⟩
    simp [herror, hlong]

theorem ofLine_eq_error : ofLine line = .error fault ↔
    ∃ digits, Exceeds line digits ∧ fault = .numeralTooLong digits := by
  rcases ofLine_cases line with ⟨hshort, hok⟩ | ⟨digits, hexceeds, herror⟩
  · rw [hok]
    refine iff_of_false (fun h => by cases h) ?_
    rintro ⟨digits, hexceeds, -⟩
    exact hshort ⟨digits, hexceeds⟩
  · rw [herror]
    constructor
    · intro h
      exact ⟨digits, hexceeds, (Except.error.inj h).symm⟩
    · rintro ⟨others, hothers, rfl⟩
      obtain ⟨-, raw, hraw, rfl⟩ := exceeds_iff.mp hexceeds
      obtain ⟨-, other, hother, rfl⟩ := exceeds_iff.mp hothers
      obtain rfl := Option.some.inj (hraw.symm.trans hother)
      rfl

theorem isOk_ofLine : (ofLine line).isOk = true ↔ ¬ Overlong line := by
  rw [isOk_iff]
  constructor
  · rintro ⟨f, hf⟩
    exact (ofLine_eq_ok.mp hf).1
  · intro h
    exact ⟨_, ofLine_eq_ok.mpr ⟨h, rfl⟩⟩

end LineFacts

namespace ScriptInfo

open LineFacts

variable {path : String} {lines : List String} {info : ScriptInfo} {fault : Fault}

/-- The first line that exceeds the limit does so with this number of digits. -/
def FirstExcess (lines : List String) (digits : Nat) : Prop :=
  ∃ front line back, lines = front ++ line :: back ∧ (∀ short ∈ front, ¬ Overlong short) ∧
    Exceeds line digits

theorem ofLines_eq_ok_iff : ofLines path lines = .ok info ↔
    (∀ line ∈ lines, ¬ Overlong line) ∧ ofFacts path lines (lines.map told) = info := by
  rw [ofLines, map_eq_ok]
  constructor
  · rintro ⟨facts, hfacts, rfl⟩
    have hshort : ∀ line ∈ lines, ¬ Overlong line := by
      intro line hline
      exact isOk_ofLine.mp (isOk_mapM.mp (isOk_iff.mpr ⟨facts, hfacts⟩) line hline)
    have htold : facts.map id = lines.map told :=
      map_of_mapM (fun line _ f hf => (ofLine_eq_ok.mp hf).2.symm) hfacts
    rw [List.map_id] at htold
    exact ⟨hshort, by rw [htold]⟩
  · rintro ⟨hshort, rfl⟩
    exact ⟨_, mapM_eq_ok fun line hline => ofLine_eq_ok.mpr ⟨hshort line hline, rfl⟩, rfl⟩

theorem ofLines_eq_error_iff : ofLines path lines = .error fault ↔
    ∃ digits, FirstExcess lines digits ∧ fault = .numeralTooLong digits := by
  have hmap : ofLines path lines = .error fault ↔ lines.mapM ofLine = .error fault := by
    rw [ofLines]
    cases lines.mapM ofLine <;> simp [Except.map]
  rw [hmap, mapM_eq_error]
  constructor
  · rintro ⟨front, line, back, hlines, hfront, hline⟩
    obtain ⟨digits, hexceeds, rfl⟩ := ofLine_eq_error.mp hline
    exact ⟨digits, ⟨front, line, back, hlines, fun short h => isOk_ofLine.mp (hfront short h),
      hexceeds⟩, rfl⟩
  · rintro ⟨digits, ⟨front, line, back, hlines, hfront, hexceeds⟩, rfl⟩
    exact ⟨front, line, back, hlines, fun short h => isOk_ofLine.mpr (hfront short h),
      ofLine_eq_error.mpr ⟨digits, hexceeds, rfl⟩⟩

end ScriptInfo
end ScriptProfiling
