import RequestParams.Calendar.Date

/-!
# Date and time fields

Reading a text through a format collects fields one by one. A field may be set twice, but only to
the same value. The collected fields are consistent if they leave the date open, or determine a date
of the calendar that has all of them.
-/

namespace RequestParams.Calendar

/-- The fields that a text has set. -/
structure Fields where
  year : Option Int := none
  century : Option Int := none
  yearOfCentury : Option Int := none
  isoYear : Option Int := none
  isoYearOfCentury : Option Int := none
  quarter : Option Nat := none
  month : Option Nat := none
  day : Option Nat := none
  ordinal : Option Nat := none
  weekFromSunday : Option Nat := none
  weekFromMonday : Option Nat := none
  isoWeek : Option Nat := none
  weekday : Option Weekday := none
  half : Option Nat := none
  hourOfHalf : Option Nat := none
  minute : Option Nat := none
  second : Option Nat := none
  nanosecond : Option Nat := none
  timestamp : Option Nat := none
  offset : Option Int := none
deriving DecidableEq, Repr

/-- Sets a field that is unset or has this value already. -/
def agree? {α : Type} [DecidableEq α] (old : Option α) (new : α) : Option (Option α) :=
  match old with
  | none => some (some new)
  | some value => if value = new then some (some new) else none

namespace Fields

/-- Sets the weekday. -/
def setWeekday? (fields : Fields) (day : Weekday) : Option Fields :=
  (agree? fields.weekday day).map fun value => { fields with weekday := value }

/-- Sets the month. -/
def setMonth? (fields : Fields) (n : Nat) : Option Fields :=
  if 1 ≤ n ∧ n ≤ 12 then
    (agree? fields.month n).map fun value => { fields with month := value }
  else none

/-- Sets the half of the day, zero before noon. -/
def setHalf? (fields : Fields) (n : Nat) : Option Fields :=
  (agree? fields.half n).map fun value => { fields with half := value }

/-- Sets the hour within its half of the day. -/
def setHourOfHalf? (fields : Fields) (n : Nat) : Option Fields :=
  (agree? fields.hourOfHalf n).map fun value => { fields with hourOfHalf := value }

/-- Sets the hour of the day. -/
def setHour? (fields : Fields) (n : Nat) : Option Fields :=
  if n < 24 then
    (fields.setHalf? (n / 12)).bind (·.setHourOfHalf? (n % 12))
  else none

/-- Sets the fraction of the second. -/
def setNanosecond? (fields : Fields) (n : Nat) : Option Fields :=
  (agree? fields.nanosecond n).map fun value => { fields with nanosecond := value }

/-- Sets the distance to universal time in seconds. -/
def setOffset? (fields : Fields) (seconds : Int) : Option Fields :=
  (agree? fields.offset seconds).map fun value => { fields with offset := value }

end Fields

/-- The year that its parts give: none of them leaves it open, two digits mean the years from 1970,
and a century alone is not enough. The outer option is `none` for contradicting parts. -/
inductive YearParts
  /-- The parts contradict each other. -/
  | contradiction
  /-- A century without a year. -/
  | notEnough
  /-- The year, or nothing about it. -/
  | known (year : Option Int)
deriving DecidableEq, Repr

/-- Combines a full year, a century and a year of the century. -/
def resolveYear (year century yearOfCentury : Option Int) : YearParts :=
  match year, century, yearOfCentury with
  | year, none, none => .known year
  | some y, q, r =>
    if 0 ≤ y ∧ q.getD (y / 100) = y / 100 ∧ r.getD (y % 100) = y % 100 then .known (some y)
    else .contradiction
  | none, some q, some r => .known (some (100 * q + r))
  | none, none, some r => .known (some (r + if r < 70 then 2000 else 1900))
  | none, some _, none => .notEnough

/-- Whether a field, if set, has this value. -/
def agrees {α : Type} [DecidableEq α] (field : Option α) (value : α) : Bool :=
  field.all fun f => f = value

namespace Fields

/-- Whether the year, its parts, and month and day are those of a date. -/
def agreesWithDay (fields : Fields) (d : Date) : Bool :=
  agrees fields.year d.year &&
    fields.century.all (fun q => 0 ≤ d.year && q = d.year / 100) &&
    fields.yearOfCentury.all (fun r => 0 ≤ d.year && r = d.year % 100) &&
    agrees fields.month d.month && agrees fields.day d.day

/-- Whether the ISO year, week and weekday are those of a date. -/
def agreesWithIsoWeek (fields : Fields) (d : Date) : Bool :=
  agrees fields.isoYear d.isoYear &&
    fields.isoYearOfCentury.all (fun r => 0 ≤ d.isoYear && r = d.isoYear % 100) &&
    agrees fields.isoWeek d.isoWeek && agrees fields.weekday d.weekday

/-- Whether the day of the year and the other week numbers are those of a date. -/
def agreesWithOrdinal (fields : Fields) (d : Date) : Bool :=
  agrees fields.ordinal d.ordinal && agrees fields.weekFromSunday (d.weeksFrom .sunday) &&
    agrees fields.weekFromMonday (d.weeksFrom .monday)

/-- Whether the quarter, if set, is that of a date. -/
def agreesWithQuarter (fields : Fields) (d : Date) : Bool := agrees fields.quarter d.quarter

/-- Whether all fields about the date are those of a date. -/
def agreesWith (fields : Fields) (d : Date) : Bool :=
  fields.agreesWithDay d && fields.agreesWithIsoWeek d && fields.agreesWithOrdinal d &&
    fields.agreesWithQuarter d

/-- The date that the fields determine, if there are enough of them: the inner option is `none` if
the calendar has no such date. -/
def candidate? (fields : Fields) (year isoYear : Option Int) : Option (Option Date) :=
  match year, fields.month, fields.day with
  | some y, some m, some d => some (Date.ofMonthDay? y m d)
  | _, _, _ =>
  match year, fields.ordinal with
  | some y, some n => some (Date.ofOrdinal? y n)
  | _, _ =>
  match year, fields.weekFromSunday, fields.weekday with
  | some y, some w, some day => some (Date.ofWeek? y w day .sunday)
  | _, _, _ =>
  match year, fields.weekFromMonday, fields.weekday with
  | some y, some w, some day => some (Date.ofWeek? y w day .monday)
  | _, _, _ =>
  match isoYear, fields.isoWeek, fields.weekday with
  | some y, some w, some day => some (Date.ofIsoWeek? y w day)
  | _, _, _ => none

/-- Whether the fields about the date leave it open or are those of a date of the calendar. Fields
about the time of day are within their ranges and always name one. -/
def isConsistent (fields : Fields) : Bool :=
  match resolveYear fields.year fields.century fields.yearOfCentury with
  | .contradiction => false
  | .notEnough => true
  | .known year =>
    match resolveYear fields.isoYear none fields.isoYearOfCentury with
    | .contradiction => false
    | .notEnough => true
    | .known isoYear =>
      match fields.candidate? year isoYear with
      | none => true
      | some none => false
      | some (some d) => fields.agreesWith d

end Fields

end RequestParams.Calendar
