/-!
The Gregorian calendar, extended backwards to year 1. Days are numbered from 0001-01-01, which is
day 0 and a Monday: `dayNumber` numbers a date and `ofDayNumber` finds the date of a number. Weeks
start on Monday, and the first week of a year is the one that holds its first Thursday.
-/
namespace ResourceQuery.Time

/-- The last year of the calendar. -/
def maxYear : Nat := 9999

/-- A date. -/
structure Date where
  year : Nat
  month : Nat
  day : Nat
  deriving DecidableEq, Inhabited, Repr

/-- Leap years are the multiples of 4, but of the multiples of 100 only those of 400. -/
def isLeap (year : Nat) : Bool := year % 4 == 0 && (year % 100 != 0 || year % 400 == 0)

/-- The number of days of a month, from 1 for January. -/
def daysInMonth (year month : Nat) : Nat :=
  match month with
  | 2 => if isLeap year then 29 else 28
  | 4 | 6 | 9 | 11 => 30
  | _ => 31

/-- The number of days from day 0 to the start of a year. -/
def daysBeforeYear (year : Nat) : Nat :=
  let past := year - 1
  past * 365 + past / 4 - past / 100 + past / 400

/-- The number of days of a year before a month. -/
def daysBeforeMonth (year : Nat) : (month : Nat) → Nat
  | 0 => 0
  | 1 => 0
  | month + 2 => daysBeforeMonth year (month + 1) + daysInMonth year (month + 1)

namespace Date

/-- Whether the date exists in the calendar. -/
def isValid (date : Date) : Bool :=
  1 ≤ date.year && date.year ≤ maxYear && 1 ≤ date.month && date.month ≤ 12 &&
    1 ≤ date.day && date.day ≤ daysInMonth date.year date.month

/-- The number of a date. -/
def dayNumber (date : Date) : Nat :=
  daysBeforeYear date.year + daysBeforeMonth date.year date.month + date.day - 1

/-- The month and day of a day of a year, the first being day 0, counted on from `month`, of which
`left` more follow. -/
def monthDay (year : Nat) : (left month day : Nat) → Nat × Nat
  | 0, month, day => (month, day + 1)
  | left + 1, month, day =>
    if day < daysInMonth year month then (month, day + 1)
    else monthDay year left (month + 1) (day - daysInMonth year month)

/-- The date of a day number: whole cycles of 400, 100, 4 and 1 years, then months. -/
def ofDayNumber (number : Nat) : Date :=
  let cycles := number / 146097
  let inCycle := number % 146097
  let centuries := min (inCycle / 36524) 3
  let inCentury := inCycle - centuries * 36524
  let fours := inCentury / 1461
  let inFour := inCentury % 1461
  let ones := min (inFour / 365) 3
  let year := 400 * cycles + 100 * centuries + 4 * fours + ones + 1
  let (month, day) := monthDay year 11 1 (inFour - ones * 365)
  ⟨year, month, day⟩

/-- The day of the week, from 0 for Monday. -/
def weekday (date : Date) : Nat := date.dayNumber % 7

/-- Whether a year has 53 weeks: it starts on a Thursday, or on a Wednesday and is a leap year. -/
def hasLongYear (year : Nat) : Bool :=
  let first := weekday ⟨year, 1, 1⟩
  first == 3 || (first == 2 && isLeap year)

/-- The day number of the Monday of the first week of a year. -/
def firstMonday (year : Nat) : Nat :=
  let first : Date := ⟨year, 1, 1⟩
  let monday := first.dayNumber - first.weekday
  if 3 < first.weekday then monday + 7 else monday

/-- The date of a day, from 1 for Monday, of a week of a year. -/
def ofWeek? (year week day : Nat) : Option Date :=
  if 1 ≤ year ∧ year ≤ maxYear ∧ 1 ≤ week ∧ (week ≤ 52 ∨ week = 53 ∧ hasLongYear year) ∧
      1 ≤ day ∧ day ≤ 7 then
    some (ofDayNumber (firstMonday year + (week - 1) * 7 + (day - 1)))
  else none

end Date
end ResourceQuery.Time
