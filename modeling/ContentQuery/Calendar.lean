/-!
# ContentQuery.Calendar

The Gregorian calendar, extended to all years from 1 on: days are counted from 1 January of year 1,
which is day 0 and a Monday.
-/

namespace ContentQuery

/-- A day of the calendar. -/
structure Date where
  year : Nat
  month : Nat
  day : Nat
  deriving DecidableEq

namespace Calendar

/-- Leap years have a 29 February. -/
def isLeap (year : Nat) : Bool := year % 4 = 0 && (year % 100 ≠ 0 || year % 400 = 0)

/-- The number of days in a month. -/
def daysInMonth (year month : Nat) : Nat :=
  if month = 2 then (if isLeap year then 29 else 28)
  else if month = 4 || month = 6 || month = 9 || month = 11 then 30
  else 31

/-- The number of days before a year. -/
def daysBeforeYear (year : Nat) : Nat :=
  let past := year - 1
  365 * past + past / 4 - past / 100 + past / 400

/-- The number of days of a year before a month. -/
def daysBeforeMonth (year month : Nat) : Nat :=
  ((List.range (month - 1)).map fun earlier => daysInMonth year (earlier + 1)).foldr (· + ·) 0

end Calendar

namespace Date

open Calendar

/-- The last year that dates can have. -/
def maxYear : Nat := 9999

/-- Whether the three numbers are a day of the calendar. -/
def isValid (date : Date) : Bool :=
  1 ≤ date.year && date.year ≤ maxYear && 1 ≤ date.month && date.month ≤ 12 &&
    1 ≤ date.day && date.day ≤ daysInMonth date.year date.month

/-- The number of a day. -/
def dayNumber (date : Date) : Nat :=
  daysBeforeYear date.year + daysBeforeMonth date.year date.month + (date.day - 1)

/-- The month and the day of the month, for a day counted from the beginning of `month`. -/
def monthAndDay (year : Nat) : (months : Nat) → (month day : Nat) → Nat × Nat
  | 0, month, day => (month, day + 1)
  | months + 1, month, day =>
    if day < daysInMonth year month then (month, day + 1)
    else monthAndDay year months (month + 1) (day - daysInMonth year month)

/-- The date of a day. The calendar repeats after 400 years; within them a leap day is missing at
the end of every century but the last, and within a century comes at the end of every
fourth year. -/
def ofDayNumber (n : Nat) : Date :=
  let inCycle := n % 146097
  let century := min (inCycle / 36524) 3
  let inCentury := inCycle - century * 36524
  let inFour := inCentury % 1461
  let single := min (inFour / 365) 3
  let year := 400 * (n / 146097) + 100 * century + 4 * (inCentury / 1461) + single + 1
  let (month, day) := monthAndDay year 12 1 (inFour - single * 365)
  ⟨year, month, day⟩

/-- The day of the week, Monday being 0. -/
def weekday (n : Nat) : Nat := n % 7

/-- The number of weeks that a year has when weeks belong to the year of their Thursday. -/
def weeksInYear (year : Nat) : Nat :=
  let first := weekday (daysBeforeYear year)
  if first = 3 || (first = 2 && isLeap year) then 53 else 52

/-- The Monday of the first week of a year: of the week with the first Thursday. The first week of
year 1 begins with day 0, so there is always one. -/
def firstMonday (year : Nat) : Nat :=
  let first := daysBeforeYear year
  let monday := first - weekday first
  if 3 < weekday first then monday + 7 else monday

/-- The date of a day of a week, both counted from one. -/
def ofWeek? (year week day : Nat) : Option Date :=
  if 1 ≤ year && 1 ≤ week && week ≤ weeksInYear year && 1 ≤ day && day ≤ 7 then
    some (ofDayNumber (firstMonday year + (week - 1) * 7 + (day - 1)))
  else none

end Date

end ContentQuery
