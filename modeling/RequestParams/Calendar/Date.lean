/-!
# Calendar dates

Dates of the proleptic Gregorian calendar, given by the year and the day of the year. Month and day,
weekday, and the three ways to number weeks are read off these two.
-/

namespace RequestParams.Calendar

/-- Every fourth year, but of the full centuries every fourth only. -/
def isLeap (year : Int) : Bool := year % 4 == 0 && (year % 100 != 0 || year % 400 == 0)

/-- The number of days of a year. -/
def daysInYear (year : Int) : Nat := if isLeap year then 366 else 365

/-- The lengths of the twelve months. -/
def monthLengths (year : Int) : List Nat :=
  [31, if isLeap year then 29 else 28, 31, 30, 31, 30, 31, 31, 30, 31, 30, 31]

/-- The first year of the calendar's range. -/
def firstYear : Int := -262143

/-- The last year of the calendar's range. -/
def lastYear : Int := 262142

/-- Whether a year is in the calendar's range. -/
def inRange (year : Int) : Bool := firstYear ≤ year && year ≤ lastYear

/-- The days of the week. -/
inductive Weekday
  | monday
  | tuesday
  | wednesday
  | thursday
  | friday
  | saturday
  | sunday
deriving DecidableEq, Repr

namespace Weekday

/-- The days of the week, Monday first. -/
def all : List Weekday := [monday, tuesday, wednesday, thursday, friday, saturday, sunday]

/-- The number of days since Monday. -/
def index : Weekday → Nat
  | monday => 0
  | tuesday => 1
  | wednesday => 2
  | thursday => 3
  | friday => 4
  | saturday => 5
  | sunday => 6

/-- The day so many days after a Monday. -/
def ofIndex (n : Nat) : Weekday := (all[n % 7]?).getD monday

/-- The number of days since the last day of another name. -/
def daysSince (day start : Weekday) : Nat := (day.index + 7 - start.index) % 7

end Weekday

/-- A date. -/
structure Date where
  /-- The year; the year before the first one is zero. -/
  year : Int
  /-- The day of the year, from one. -/
  ordinal : Nat
deriving DecidableEq, Repr

namespace Date

/-- The date of a day of a year. -/
def ofOrdinal? (year : Int) (ordinal : Nat) : Option Date :=
  if inRange year && 1 ≤ ordinal && ordinal ≤ daysInYear year then some ⟨year, ordinal⟩ else none

/-- The date of a day of a month. -/
def ofMonthDay? (year : Int) (month day : Nat) : Option Date :=
  let lengths := monthLengths year
  if inRange year && 1 ≤ month && month ≤ 12 && 1 ≤ day && day ≤ lengths.getD (month - 1) 0 then
    some ⟨year, (lengths.take (month - 1)).foldl (· + ·) day⟩
  else
    none

/-- Month and day from the lengths of the months still to come. -/
def monthDayFrom (month ordinal : Nat) : List Nat → Nat × Nat
  | [] => (month, ordinal)
  | length :: rest =>
    if ordinal ≤ length then (month, ordinal) else monthDayFrom (month + 1) (ordinal - length) rest

/-- Month and day of a date. -/
def monthDay (d : Date) : Nat × Nat := monthDayFrom 1 d.ordinal (monthLengths d.year)

/-- The month, from one. -/
def month (d : Date) : Nat := d.monthDay.1

/-- The day of the month, from one. -/
def day (d : Date) : Nat := d.monthDay.2

/-- The quarter, from one. -/
def quarter (d : Date) : Nat := (d.month - 1) / 3 + 1

/-- The number of days from the end of the year zero to the end of the year before. -/
def daysBefore (year : Int) : Int :=
  let y := year - 1
  365 * y + y / 4 - y / 100 + y / 400

/-- The number of a day of a year, one being the first day of the first year, a Monday. -/
def dayNumber (year : Int) (ordinal : Int) : Int := daysBefore year + ordinal

/-- The day of the week. -/
def weekday (d : Date) : Weekday :=
  .ofIndex ((dayNumber d.year d.ordinal - 1) % 7).toNat

/-- The number of weeks begun on the given day; days before the first such day are in week zero. -/
def weeksFrom (d : Date) (start : Weekday) : Nat :=
  (d.ordinal + 6 - d.weekday.daysSince start) / 7

/-- The number of the Monday in whose week the fourth of January falls. -/
def firstIsoMonday (year : Int) : Int :=
  let fourth := dayNumber year 4
  fourth - (fourth - 1) % 7

/-- The number of weeks of an ISO year. -/
def isoWeeks (year : Int) : Nat := ((firstIsoMonday (year + 1) - firstIsoMonday year) / 7).toNat

/-- The ISO year: that of the Thursday of the date's week. -/
def isoYear (d : Date) : Int :=
  let n := dayNumber d.year d.ordinal
  if n < firstIsoMonday d.year then d.year - 1
  else if firstIsoMonday (d.year + 1) ≤ n then d.year + 1
  else d.year

/-- The ISO week. -/
def isoWeek (d : Date) : Nat :=
  ((dayNumber d.year d.ordinal - firstIsoMonday d.isoYear) / 7 + 1).toNat

/-- The date of a day number in or next to a year. -/
def ofDayNumber? (year : Int) (n : Int) : Option Date :=
  let year := if n ≤ daysBefore year then year - 1
    else if daysBefore (year + 1) < n then year + 1
    else year
  ofOrdinal? year (n - daysBefore year).toNat

/-- The date of a weekday of an ISO week. -/
def ofIsoWeek? (year : Int) (week : Nat) (day : Weekday) : Option Date :=
  if 1 ≤ week ∧ week ≤ isoWeeks year then
    ofDayNumber? year (firstIsoMonday year + 7 * (week - 1) + day.index)
  else
    none

/-- The date of a weekday in a week counted from the first day of that name in the year. -/
def ofWeek? (year : Int) (week : Nat) (day start : Weekday) : Option Date :=
  let firstWeekday := Weekday.ofIndex ((dayNumber year 1 - 1) % 7).toNat
  let firstStart : Int := 1 + start.daysSince firstWeekday
  let ordinal := firstStart + 7 * ((week : Int) - 1) + day.daysSince start
  if 0 < ordinal then ofOrdinal? year ordinal.toNat else none

end Date

end RequestParams.Calendar
