import BpfBoot.Text.Numeral

/-!
# Times in logs

Logs show times of the universal time zone: in the names of files up to the day or the hour, in lines
up to the microsecond.
-/

namespace BpfBoot.Log

/-- The times that logs show. -/
structure Clock where
  /-- The day, as it stands in file names. -/
  day : String
  /-- The day and hour, as they stand in file names. -/
  hour : String
  /-- The time, as it stands in lines. -/
  time : String
  deriving DecidableEq, Repr

structure Date where
  year : Nat
  month : Nat
  day : Nat
  deriving DecidableEq, Repr

namespace Date

/-- The number of days from the first of March of the year 0 to the first of January 1970. -/
def epochOffset : Nat := 719468

/-- The number of days of four centuries. -/
def eraLength : Nat := 146097

/-- The day that comes `n` days after the first of January 1970. Years begin with March here until the
month is known, so that the leap day is the last one of its year. -/
def ofDayNumber (n : Nat) : Date :=
  let era := (n + epochOffset) / eraLength
  let dayOfEra := (n + epochOffset) % eraLength
  let yearOfEra := (dayOfEra - dayOfEra / 1460 + dayOfEra / 36524 - dayOfEra / 146096) / 365
  let dayOfYear := dayOfEra - (365 * yearOfEra + yearOfEra / 4 - yearOfEra / 100)
  let monthFromMarch := (5 * dayOfYear + 2) / 153
  let month := if monthFromMarch < 10 then monthFromMarch + 3 else monthFromMarch - 9
  { year := yearOfEra + 400 * era + if month ≤ 2 then 1 else 0
    month
    day := dayOfYear - (153 * monthFromMarch + 2) / 5 + 1 }

example : ofDayNumber 0 = ⟨1970, 1, 1⟩ := by decide

example : ofDayNumber 19782 = ⟨2024, 2, 29⟩ := by decide

end Date

namespace Clock

/-- A number with leading zeros up to a width. -/
def padded (width n : Nat) : String :=
  String.ofList (Text.padLeft width '0' (Text.decimal n).toList)

/-- The time that comes some seconds and microseconds after the beginning of 1970. -/
def ofEpoch (seconds microseconds : Nat) : Clock :=
  let date := Date.ofDayNumber (seconds / 86400)
  let day := padded 4 date.year ++ "-" ++ padded 2 date.month ++ "-" ++ padded 2 date.day
  let hour := padded 2 (seconds / 3600 % 24)
  { day
    hour := day ++ "-" ++ hour
    time := day ++ "T" ++ hour ++ ":" ++ padded 2 (seconds / 60 % 60) ++ ":"
      ++ padded 2 (seconds % 60) ++ "." ++ padded 6 microseconds ++ "Z" }

end Clock

end BpfBoot.Log
