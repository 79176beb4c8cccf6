import ScriptProfiling.Value

/-!
# Time stamps

A point in time is given in seconds since the beginning of 1970. Years are counted from
March in the computation, so that a leap day ends one.
-/
namespace ScriptProfiling

/-- The date a number of days after the beginning of March of the year 0. -/
def dateAfterMarch (days : Nat) : Date :=
  let era := days / 146097
  let dayOfEra := days % 146097
  let yearOfEra := (dayOfEra - dayOfEra / 1460 + dayOfEra / 36524 - dayOfEra / 146096) / 365
  let dayOfYear := dayOfEra - (365 * yearOfEra + yearOfEra / 4 - yearOfEra / 100)
  let month := (5 * dayOfYear + 2) / 153
  let day := dayOfYear - (153 * month + 2) / 5 + 1
  let year := yearOfEra + 400 * era
  if month < 10 then ⟨year, month + 3, day⟩ else ⟨year + 1, month - 9, day⟩

/-- The days from that March to the beginning of 1970. -/
def daysBefore1970 : Nat := 719468

/-- The text of a point in time in universal time. -/
def timeStamp (seconds : Nat) : String :=
  let inDay := seconds % 86400
  (dateAfterMarch (daysBefore1970 + seconds / 86400)).text ++ " " ++
    (Time.mk (inDay / 3600) (inDay / 60 % 60) (inDay % 60) 0).text

end ScriptProfiling
