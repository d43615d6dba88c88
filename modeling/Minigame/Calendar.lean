/-! Dates of the Gregorian calendar, counted in days. -/

namespace Minigame.Calendar

/-- The days of a month. -/
def daysInMonth (year : Int) (month : Nat) : Nat :=
  if month = 2 then
    if year % 4 = 0 ∧ (year % 100 ≠ 0 ∨ year % 400 = 0) then 29 else 28
  else if month ∈ [4, 6, 9, 11] then 30 else 31

/-- The days from the start of 1970 to a date of the Gregorian calendar. -/
def daysOfDate (year : Int) (month day : Nat) : Int :=
  -- Years are counted from March, so that a leap day is the last day of its year.
  let year := if month ≤ 2 then year - 1 else year
  let era := year.fdiv 400
  let yearOfEra := year - 400 * era
  let dayOfYear : Int := (153 * ((month + 9) % 12) + 2) / 5 + day - 1
  era * 146097 + (yearOfEra * 365 + yearOfEra.fdiv 4 - yearOfEra.fdiv 100 + dayOfYear) - 719468

/-- The date a number of days after the start of 1970. -/
def dateOfDays (days : Int) : Int × Nat × Nat :=
  let days := days + 719468
  let era := days.fdiv 146097
  let dayOfEra := (days - 146097 * era).toNat
  let yearOfEra := (dayOfEra - dayOfEra / 1460 + dayOfEra / 36524 - dayOfEra / 146096) / 365
  let dayOfYear := dayOfEra - (365 * yearOfEra + yearOfEra / 4 - yearOfEra / 100)
  let shifted := (5 * dayOfYear + 2) / 153
  let day := dayOfYear - (153 * shifted + 2) / 5 + 1
  let month := if shifted < 10 then shifted + 3 else shifted - 9
  (era * 400 + yearOfEra + (if month ≤ 2 then 1 else 0), month, day)

end Minigame.Calendar
