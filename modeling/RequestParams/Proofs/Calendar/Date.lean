import Mathlib.Tactic.Common
import Mathlib.Tactic.IntervalCases
import RequestParams.Calendar.Date

/-!
# The days of the calendar

A date stands for a day if its year has that many days. Every month has the day of a date that was
made from month and day, every date of a day has a month that is long enough, and in any year there
is a day for each month, each day of a month and each weekday.
-/

namespace RequestParams.Calendar

/-- A month of a year has this day. -/
def IsDay (year : Int) (month day : Nat) : Prop :=
  1 ≤ month ∧ month ≤ 12 ∧ 1 ≤ day ∧ day ≤ (monthLengths year).getD (month - 1) 0

namespace Date

/-- The year has the day. -/
def IsReal (d : Date) : Prop := 1 ≤ d.ordinal ∧ d.ordinal ≤ daysInYear d.year

/-! ## Months and days -/

/-- The number of days of the first months. -/
def daysOf (lengths : List Nat) : Nat := lengths.foldl (· + ·) 0

theorem foldl_add_eq (lengths : List Nat) (n : Nat) :
    lengths.foldl (· + ·) n = daysOf lengths + n := by
  induction lengths generalizing n with
  | nil => simp [daysOf]
  | cons length lengths induction =>
      rw [daysOf, List.foldl_cons, List.foldl_cons, induction, induction (0 + length)]
      omega

theorem daysOf_cons (length : Nat) (lengths : List Nat) :
    daysOf (length :: lengths) = length + daysOf lengths := by
  rw [daysOf, List.foldl_cons, foldl_add_eq]
  omega

theorem daysOf_monthLengths (year : Int) : daysOf (monthLengths year) = daysInYear year := by
  unfold monthLengths daysInYear
  cases isLeap year <;> rfl

/-- Counting off months from a day that they have ends in one of them, on a day that it has. -/
theorem monthDayFrom_spec (lengths : List Nat) (month ordinal : Nat) (ordinal_pos : 1 ≤ ordinal)
    (ordinal_le : ordinal ≤ daysOf lengths) :
    ∃ k < lengths.length, (monthDayFrom month ordinal lengths).1 = month + k ∧
      1 ≤ (monthDayFrom month ordinal lengths).2 ∧
      (monthDayFrom month ordinal lengths).2 ≤ lengths.getD k 0 := by
  induction lengths generalizing month ordinal with
  | nil =>
      have none_left : daysOf [] = 0 := rfl
      omega
  | cons length lengths induction =>
      rw [daysOf_cons] at ordinal_le
      unfold monthDayFrom
      split
      · exact ⟨0, by simp, rfl, ordinal_pos, by simpa⟩
      · obtain ⟨k, k_lt, month_eq, day_pos, day_le⟩ :=
          induction (month + 1) (ordinal - length) (by omega) (by omega)
        refine ⟨k + 1, by simpa using k_lt, ?_, day_pos, by simpa using day_le⟩
        rw [month_eq]
        omega

/-- Counting off months from a day of one of them comes back to it. -/
theorem monthDayFrom_add (lengths : List Nat) (month k day : Nat) (day_pos : 1 ≤ day)
    (day_le : day ≤ lengths.getD k 0) :
    monthDayFrom month (daysOf (lengths.take k) + day) lengths = (month + k, day) := by
  induction lengths generalizing month k with
  | nil =>
      rw [List.getD_nil] at day_le
      omega
  | cons length lengths induction =>
      cases k with
      | zero =>
          have none_before : daysOf ((length :: lengths).take 0) + day = day := by
            rw [List.take_zero, daysOf, List.foldl_nil, Nat.zero_add]
          have within : day ≤ length := day_le
          rw [none_before, monthDayFrom, if_pos within, Nat.add_zero]
      | succ k =>
          have later : daysOf ((length :: lengths).take (k + 1)) + day =
              length + (daysOf (lengths.take k) + day) := by
            rw [List.take_succ_cons, daysOf_cons, Nat.add_assoc]
          have beyond : ¬length + (daysOf (lengths.take k) + day) ≤ length := by omega
          rw [later, monthDayFrom, if_neg beyond, Nat.add_sub_cancel_left, induction _ _ day_le]
          congr 1
          omega

theorem isDay_of_isReal {d : Date} (real : d.IsReal) : IsDay d.year d.month d.day := by
  obtain ⟨k, k_lt, month_eq, day_pos, day_le⟩ := monthDayFrom_spec (monthLengths d.year) 1 d.ordinal
    real.1 ((daysOf_monthLengths d.year).symm ▸ real.2)
  have length_eq : (monthLengths d.year).length = 12 := rfl
  have month_eq : d.month = 1 + k := month_eq
  have index_eq : d.month - 1 = k := by omega
  rw [IsDay, index_eq]
  exact ⟨by omega, by omega, day_pos, day_le⟩

/-- The day of the year of a day of a month. -/
def ofDay (year : Int) (month day : Nat) : Date :=
  ⟨year, daysOf ((monthLengths year).take (month - 1)) + day⟩

theorem monthDay_ofDay {year : Int} {month day : Nat} (is_day : IsDay year month day) :
    (ofDay year month day).month = month ∧ (ofDay year month day).day = day := by
  obtain ⟨month_pos, -, day_pos, day_le⟩ := is_day
  have back : (ofDay year month day).monthDay = (1 + (month - 1), day) :=
    monthDayFrom_add (monthLengths year) 1 (month - 1) day day_pos day_le
  rw [Date.month, Date.day, back]
  exact ⟨by omega, rfl⟩

theorem isReal_ofDay {year : Int} {month day : Nat} (is_day : IsDay year month day) :
    (ofDay year month day).IsReal := by
  obtain ⟨month_pos, month_le, day_pos, day_le⟩ := is_day
  have split_at : daysOf ((monthLengths year).take (month - 1)) +
      (monthLengths year).getD (month - 1) 0 ≤ daysInYear year := by
    unfold monthLengths daysInYear
    cases isLeap year <;> interval_cases month <;> decide
  exact ⟨by simp only [ofDay]; omega, by simp only [ofDay]; omega⟩

theorem ofMonthDay?_eq_some_iff {year : Int} {month day : Nat} {d : Date} :
    ofMonthDay? year month day = some d ↔
      inRange year = true ∧ IsDay year month day ∧ d = ofDay year month day := by
  simp only [ofMonthDay?, Option.ite_none_right_eq_some, Bool.and_eq_true, decide_eq_true_eq,
    Option.some.injEq, foldl_add_eq, IsDay, ofDay, and_assoc, @eq_comm Date]

/-! ## The ways to give a date -/

theorem isReal_of_ofMonthDay? {year : Int} {month day : Nat} {d : Date}
    (given : ofMonthDay? year month day = some d) : d.IsReal := by
  obtain ⟨-, is_day, rfl⟩ := ofMonthDay?_eq_some_iff.mp given
  exact isReal_ofDay is_day

theorem isReal_of_ofOrdinal? {year : Int} {ordinal : Nat} {d : Date}
    (given : ofOrdinal? year ordinal = some d) : d.IsReal := by
  obtain ⟨within, date_eq⟩ := Option.ite_none_right_eq_some.mp given
  obtain rfl := Option.some.inj date_eq
  simp only [Bool.and_eq_true, decide_eq_true_eq] at within
  exact ⟨within.1.2, within.2⟩

theorem isReal_of_ofWeek? {year : Int} {week : Nat} {day start : Weekday} {d : Date}
    (given : ofWeek? year week day start = some d) : d.IsReal :=
  isReal_of_ofOrdinal? (Option.ite_none_right_eq_some.mp given).2

theorem isReal_of_ofIsoWeek? {year : Int} {week : Nat} {day : Weekday} {d : Date}
    (given : ofIsoWeek? year week day = some d) : d.IsReal :=
  isReal_of_ofOrdinal? (Option.ite_none_right_eq_some.mp given).2

end Date

/-! ## Days with a given part -/

theorem Weekday.ofIndex_index (day : Weekday) : Weekday.ofIndex day.index = day := by
  cases day <;> rfl

theorem Weekday.index_lt (day : Weekday) : day.index < 7 := by
  cases day <;> decide

theorem le_daysInYear (year : Int) : 365 ≤ daysInYear year := by
  unfold daysInYear
  split <;> omega

theorem exists_year (year : Int) : ∃ d : Date, d.IsReal ∧ d.year = year := by
  have year_length := le_daysInYear year
  exact ⟨⟨year, 1⟩, ⟨Nat.le_refl 1, by simp only; omega⟩, rfl⟩

theorem exists_weekday (year : Int) (day : Weekday) :
    ∃ d : Date, d.IsReal ∧ d.year = year ∧ d.weekday = day := by
  have index_lt := day.index_lt
  refine ⟨⟨year, 1 + ((day.index - Date.daysBefore year) % 7).toNat⟩, ?_, rfl, ?_⟩
  · have year_length := le_daysInYear year
    exact ⟨by simp only; omega, by simp only; omega⟩
  · have index_eq : ((Date.dayNumber year (1 + ((day.index - Date.daysBefore year) % 7).toNat : Nat)
        - 1) % 7).toNat = day.index := by
      rw [Date.dayNumber]
      omega
    rw [Date.weekday, index_eq, Weekday.ofIndex_index]

theorem exists_month (year : Int) {month : Nat} (month_pos : 1 ≤ month) (month_le : month ≤ 12) :
    ∃ d : Date, d.IsReal ∧ d.year = year ∧ d.month = month := by
  have is_day : IsDay year month 1 := by
    refine ⟨month_pos, month_le, Nat.le_refl 1, ?_⟩
    unfold monthLengths
    cases isLeap year <;> interval_cases month <;> decide
  exact ⟨Date.ofDay year month 1, Date.isReal_ofDay is_day, rfl, (Date.monthDay_ofDay is_day).1⟩

theorem exists_day (year : Int) {day : Nat} (day_pos : 1 ≤ day) (day_le : day ≤ 31) :
    ∃ d : Date, d.IsReal ∧ d.year = year ∧ d.day = day := by
  have is_day : IsDay year 1 day := ⟨Nat.le_refl 1, by omega, day_pos, day_le⟩
  exact ⟨Date.ofDay year 1 day, Date.isReal_ofDay is_day, rfl, (Date.monthDay_ofDay is_day).2⟩

theorem exists_quarter (year : Int) {quarter : Nat} (quarter_pos : 1 ≤ quarter)
    (quarter_le : quarter ≤ 4) : ∃ d : Date, d.IsReal ∧ d.year = year ∧ d.quarter = quarter := by
  have month_pos : 1 ≤ 3 * quarter := by omega
  obtain ⟨d, real, year_eq, month_eq⟩ := exists_month year month_pos (by omega)
  refine ⟨d, real, year_eq, ?_⟩
  rw [Date.quarter, month_eq]
  omega

theorem exists_ordinal {ordinal : Nat} (ordinal_pos : 1 ≤ ordinal) (ordinal_le : ordinal ≤ 366) :
    ∃ d : Date, d.IsReal ∧ d.ordinal = ordinal :=
  ⟨⟨2000, ordinal⟩, ⟨ordinal_pos, ordinal_le⟩, rfl⟩

/-- The leap year 2000 began on a Saturday, so that it had all weeks counted from a Sunday. -/
theorem exists_weekFromSunday {week : Nat} (week_le : week ≤ 53) :
    ∃ d : Date, d.IsReal ∧ d.weeksFrom .sunday = week := by
  have at_week : ∀ week : Fin 54, Date.weeksFrom ⟨2000, max 1 (7 * week - 5)⟩ .sunday = week := by
    decide
  refine ⟨⟨2000, max 1 (7 * week - 5)⟩, ⟨Nat.le_max_left _ _, ?_⟩, at_week ⟨week, by omega⟩⟩
  have year_length : daysInYear 2000 = 366 := by decide
  simp only [year_length]
  omega

/-- The leap year 2012 began on a Sunday, so that it had all weeks counted from a Monday. -/
theorem exists_weekFromMonday {week : Nat} (week_le : week ≤ 53) :
    ∃ d : Date, d.IsReal ∧ d.weeksFrom .monday = week := by
  have at_week : ∀ week : Fin 54, Date.weeksFrom ⟨2012, max 1 (7 * week - 5)⟩ .monday = week := by
    decide
  refine ⟨⟨2012, max 1 (7 * week - 5)⟩, ⟨Nat.le_max_left _ _, ?_⟩, at_week ⟨week, by omega⟩⟩
  have year_length : daysInYear 2012 = 366 := by decide
  simp only [year_length]
  omega

/-- The year 2020 had a fifty-third ISO week. -/
theorem exists_isoWeek {week : Nat} (week_pos : 1 ≤ week) (week_le : week ≤ 53) :
    ∃ d : Date, d.IsReal ∧ d.isoWeek = week := by
  have at_week : ∀ week : Fin 54, 1 ≤ week.val → Date.isoWeek ⟨2020, 7 * week - 5⟩ = week := by
    decide
  refine ⟨⟨2020, 7 * week - 5⟩, ⟨?_, ?_⟩, at_week ⟨week, by omega⟩ week_pos⟩
  · simp only
    omega
  · have year_length : daysInYear 2020 = 366 := by decide
    simp only [year_length]
    omega

theorem exists_isoYear (year : Int) : ∃ d : Date, d.IsReal ∧ d.isoYear = year := by
  refine ⟨⟨year, 4⟩, ?_, ?_⟩
  · have year_length := le_daysInYear year
    exact ⟨by simp only; omega, by simp only; omega⟩
  · have begun : Date.firstIsoMonday year ≤ Date.dayNumber year (4 : Nat) := by
      simp only [Date.firstIsoMonday, Nat.cast_ofNat]
      omega
    have not_over : Date.dayNumber year (4 : Nat) < Date.firstIsoMonday (year + 1) := by
      simp only [Date.firstIsoMonday, Date.dayNumber, Date.daysBefore]
      omega
    unfold Date.isoYear
    dsimp only
    rw [if_neg (Int.not_lt.mpr begun), if_neg (Int.not_le.mpr not_over)]

end RequestParams.Calendar
