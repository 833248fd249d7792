import RequestParams.Proofs.Calendar.Date
import RequestParams.Proofs.Calendar.Reading
import RequestParams.Rule

/-!
# The days and times that a text can mean

A text that fits a format always names a time of day. Each of its fields about the date is that of
some day, and there is a day of the year that it names for any one field of month, day of the month,
weekday and quarter. All fields together are those of a day where they determine one. Where they do
not, nothing holds them together: a month and a day without a year need not occur together.
-/

namespace RequestParams.Calendar

/-! ## Times of day -/

/-- A time of day; the sixtieth second is a leap second. -/
structure TimeOfDay where
  hour : Nat
  minute : Nat
  second : Nat
  nanosecond : Nat
  hour_lt : hour < 24
  minute_lt : minute < 60
  second_le : second ≤ 60
  nanosecond_lt : nanosecond < 1000000000

namespace Fields

/-- The fields about the time of day are those of a time. -/
structure AgreesWithTime (fields : Fields) (t : TimeOfDay) : Prop where
  half : ∀ n ∈ fields.half, n = t.hour / 12
  hourOfHalf : ∀ n ∈ fields.hourOfHalf, n = t.hour % 12
  minute : ∀ n ∈ fields.minute, n = t.minute
  second : ∀ n ∈ fields.second, n = t.second
  nanosecond : ∀ n ∈ fields.nanosecond, n = t.nanosecond

theorem getD_of_forall {bound : Nat} {field : Option Nat} (below : ∀ n ∈ field, n ≤ bound) :
    field.getD 0 ≤ bound := by
  cases field with
  | none => exact Nat.zero_le bound
  | some n => exact below n rfl

theorem eq_getD {field : Option Nat} : ∀ n ∈ field, n = field.getD 0 := by
  rintro n rfl
  rfl

theorem InRange.exists_time {fields : Fields} (inRange : fields.InRange) :
    ∃ t : TimeOfDay, fields.AgreesWithTime t := by
  have half_le := getD_of_forall inRange.half
  have hour_le := getD_of_forall inRange.hourOfHalf
  have minute_le := getD_of_forall inRange.minute
  have second_le := getD_of_forall inRange.second
  have nanosecond_le : fields.nanosecond.getD 0 ≤ 999999999 :=
    getD_of_forall fun n n_mem => Nat.le_of_lt_succ (inRange.nanosecond n n_mem)
  refine ⟨⟨12 * fields.half.getD 0 + fields.hourOfHalf.getD 0, fields.minute.getD 0,
    fields.second.getD 0, fields.nanosecond.getD 0, by omega, by omega, second_le, by omega⟩, ?_⟩
  refine ⟨fun n n_mem => ?_, fun n n_mem => ?_, eq_getD, eq_getD, eq_getD⟩
  · have n_eq := eq_getD n n_mem
    simp only
    omega
  · have n_eq := eq_getD n n_mem
    simp only
    omega

end Fields

/-! ## Fields about the date -/

/-- The fields that a date has a part for. -/
inductive DateField
  | year
  | century
  | yearOfCentury
  | isoYear
  | isoYearOfCentury
  | quarter
  | month
  | day
  | ordinal
  | weekFromSunday
  | weekFromMonday
  | isoWeek
  | weekday
deriving DecidableEq, Repr

namespace DateField

/-- A field, if it is set, is that part of a date. Years before the year zero have no centuries. -/
def Agrees (fields : Fields) (d : Date) : DateField → Prop
  | year => ∀ y ∈ fields.year, y = d.year
  | century => ∀ q ∈ fields.century, 0 ≤ d.year ∧ q = d.year / 100
  | yearOfCentury => ∀ r ∈ fields.yearOfCentury, 0 ≤ d.year ∧ r = d.year % 100
  | isoYear => ∀ y ∈ fields.isoYear, y = d.isoYear
  | isoYearOfCentury => ∀ r ∈ fields.isoYearOfCentury, 0 ≤ d.isoYear ∧ r = d.isoYear % 100
  | quarter => ∀ n ∈ fields.quarter, n = d.quarter
  | month => ∀ n ∈ fields.month, n = d.month
  | day => ∀ n ∈ fields.day, n = d.day
  | ordinal => ∀ n ∈ fields.ordinal, n = d.ordinal
  | weekFromSunday => ∀ n ∈ fields.weekFromSunday, n = d.weeksFrom .sunday
  | weekFromMonday => ∀ n ∈ fields.weekFromMonday, n = d.weeksFrom .monday
  | isoWeek => ∀ n ∈ fields.isoWeek, n = d.isoWeek
  | weekday => ∀ day ∈ fields.weekday, day = d.weekday

/-- All of them. -/
def all : List DateField :=
  [year, century, yearOfCentury, month, day, isoYear, isoYearOfCentury, isoWeek, weekday, ordinal,
    weekFromSunday, weekFromMonday, quarter]

theorem mem_all (field : DateField) : field ∈ all := by
  cases field <;> decide

end DateField

namespace Fields

variable {fields : Fields}

/-- There is a day that has the values of these fields, as far as they are set. -/
def HasDay (fields : Fields) (parts : List DateField) : Prop :=
  ∃ d : Date, d.IsReal ∧ ∀ part ∈ parts, part.Agrees fields d

theorem agreesWith_iff {d : Date} :
    fields.agreesWith d = true ↔ ∀ part ∈ DateField.all, part.Agrees fields d := by
  simp only [agreesWith, agreesWithDay, agreesWithIsoWeek, agreesWithOrdinal, agreesWithQuarter,
    agrees, Bool.and_eq_true, Option.all_eq_true, decide_eq_true_eq, DateField.all,
    List.forall_mem_cons, List.not_mem_nil, false_imp_iff, implies_true, and_true, and_assoc,
    DateField.Agrees, Option.mem_def]

/-! ## Fields on their own -/

/-- A field of which each value occurs among some days agrees with one of them, set or not. -/
theorem exists_agreeing_day {α : Type} {field : Option α} {Among : Date → Prop}
    {Occurs : α → Date → Prop} (nonempty : ∃ d, Among d)
    (occurs : ∀ value ∈ field, ∃ d, Among d ∧ Occurs value d) :
    ∃ d, Among d ∧ ∀ value ∈ field, Occurs value d := by
  cases field with
  | none =>
      obtain ⟨d, among⟩ := nonempty
      exact ⟨d, among, fun value value_mem => nomatch value_mem⟩
  | some value =>
      obtain ⟨d, among, occurs⟩ := occurs value rfl
      exact ⟨d, among, fun _ value_mem => Option.mem_some_iff.mp value_mem ▸ occurs⟩

/-- The fields whose values occur in every year. -/
def yearly : List DateField := [.quarter, .month, .day, .weekday]

theorem InRange.exists_day_of_year (inRange : fields.InRange) (y : Int) {part : DateField}
    (part_mem : part ∈ yearly) :
    ∃ d : Date, (d.IsReal ∧ d.year = y) ∧ part.Agrees fields d := by
  have part_cases : part = .quarter ∨ part = .month ∨ part = .day ∨ part = .weekday := by
    simpa [yearly] using part_mem
  rcases part_cases with rfl | rfl | rfl | rfl
  all_goals
    refine exists_agreeing_day (exists_year y) fun n n_mem => ?_
  · have within := inRange.quarter n n_mem
    obtain ⟨d, real, year_eq, rfl⟩ := exists_quarter y within.1 within.2
    exact ⟨d, ⟨real, year_eq⟩, rfl⟩
  · have within := inRange.month n n_mem
    obtain ⟨d, real, year_eq, rfl⟩ := exists_month y within.1 within.2
    exact ⟨d, ⟨real, year_eq⟩, rfl⟩
  · have within := inRange.day n n_mem
    obtain ⟨d, real, year_eq, rfl⟩ := exists_day y within.1 within.2
    exact ⟨d, ⟨real, year_eq⟩, rfl⟩
  · obtain ⟨d, real, year_eq, rfl⟩ := exists_weekday y n
    exact ⟨d, ⟨real, year_eq⟩, rfl⟩

/-- Each field on its own is that of a day. -/
theorem InRange.hasDay_singleton (inRange : fields.InRange) (part : DateField) :
    fields.HasDay [part] := by
  suffices occurs : ∃ d : Date, d.IsReal ∧ part.Agrees fields d by
    obtain ⟨d, real, agrees⟩ := occurs
    exact ⟨d, real, List.forall_mem_singleton.mpr agrees⟩
  by_cases part_mem : part ∈ yearly
  · obtain ⟨d, ⟨real, -⟩, agrees⟩ := inRange.exists_day_of_year 2000 part_mem
    exact ⟨d, real, agrees⟩
  cases part
  case quarter | month | day | weekday => exact absurd (by decide) part_mem
  all_goals
    refine exists_agreeing_day ((exists_year 2000).imp fun _ => And.left) fun n n_mem => ?_
  case year =>
    obtain ⟨d, real, rfl⟩ := exists_year n
    exact ⟨d, real, rfl⟩
  case century =>
    have nonneg := inRange.century n n_mem
    obtain ⟨d, real, year_eq⟩ := exists_year (100 * n)
    exact ⟨d, real, by omega, by omega⟩
  case yearOfCentury =>
    have within := inRange.yearOfCentury n n_mem
    obtain ⟨d, real, year_eq⟩ := exists_year n
    exact ⟨d, real, by omega, by omega⟩
  case isoYear =>
    obtain ⟨d, real, rfl⟩ := exists_isoYear n
    exact ⟨d, real, rfl⟩
  case isoYearOfCentury =>
    have within := inRange.isoYearOfCentury n n_mem
    obtain ⟨d, real, isoYear_eq⟩ := exists_isoYear n
    exact ⟨d, real, by omega, by omega⟩
  case ordinal =>
    have within := inRange.ordinal n n_mem
    obtain ⟨d, real, rfl⟩ := exists_ordinal within.1 within.2
    exact ⟨d, real, rfl⟩
  case weekFromSunday =>
    obtain ⟨d, real, rfl⟩ := exists_weekFromSunday (inRange.weekFromSunday n n_mem)
    exact ⟨d, real, rfl⟩
  case weekFromMonday =>
    obtain ⟨d, real, rfl⟩ := exists_weekFromMonday (inRange.weekFromMonday n n_mem)
    exact ⟨d, real, rfl⟩
  case isoWeek =>
    have within := inRange.isoWeek n n_mem
    obtain ⟨d, real, rfl⟩ := exists_isoWeek within.1 within.2
    exact ⟨d, real, rfl⟩

/-! ## The year and one more field -/

/-- The year has these parts, as far as they are given. -/
structure HasYear (year century yearOfCentury : Option Int) (y : Int) : Prop where
  year : ∀ n ∈ year, n = y
  century : ∀ q ∈ century, 0 ≤ y ∧ q = y / 100
  yearOfCentury : ∀ r ∈ yearOfCentury, 0 ≤ y ∧ r = y % 100

/-- Parts of a year that do not contradict each other are those of some year. -/
theorem exists_hasYear {year century yearOfCentury : Option Int}
    (century_nonneg : ∀ q ∈ century, 0 ≤ q)
    (within : ∀ r ∈ yearOfCentury, 0 ≤ r ∧ r ≤ 99)
    (resolved : resolveYear year century yearOfCentury ≠ .contradiction) :
    ∃ y, HasYear year century yearOfCentury y := by
  unfold resolveYear at resolved
  split at resolved
  · exact ⟨year.getD 0, by simp +contextual, by simp, by simp⟩
  · split at resolved
    · rename_i y _ agreed
      obtain ⟨nonneg, century_eq, rest_eq⟩ := agreed
      refine ⟨y, by simp, ?_, ?_⟩
      · rintro q rfl
        exact ⟨nonneg, century_eq⟩
      · rintro r rfl
        exact ⟨nonneg, rest_eq⟩
    · exact absurd rfl resolved
  · rename_i q r
    simp only [Option.mem_some_iff, forall_eq'] at century_nonneg within
    refine ⟨100 * q + r, by simp, ?_, ?_⟩
    · simp only [Option.mem_some_iff, forall_eq']
      omega
    · simp only [Option.mem_some_iff, forall_eq']
      omega
  · rename_i r
    simp only [Option.mem_some_iff, forall_eq'] at within
    refine ⟨r + if r < 70 then 2000 else 1900, by simp, by simp, ?_⟩
    simp only [Option.mem_some_iff, forall_eq']
    split <;> omega
  · rename_i q
    simp only [Option.mem_some_iff, forall_eq'] at century_nonneg
    refine ⟨100 * q, by simp, ?_, by simp⟩
    simp only [Option.mem_some_iff, forall_eq']
    omega

theorem resolveYear_ne_contradiction (consistent : fields.isConsistent = true) :
    resolveYear fields.year fields.century fields.yearOfCentury ≠ .contradiction := by
  intro contradicting
  simp [isConsistent, contradicting] at consistent

theorem InRange.hasDay_yearly (inRange : fields.InRange) (consistent : fields.isConsistent = true)
    {part : DateField} (part_mem : part ∈ yearly) :
    fields.HasDay [.year, .century, .yearOfCentury, part] := by
  obtain ⟨y, has_year⟩ := exists_hasYear inRange.century inRange.yearOfCentury
    (resolveYear_ne_contradiction consistent)
  obtain ⟨d, ⟨real, rfl⟩, agrees⟩ := inRange.exists_day_of_year y part_mem
  refine ⟨d, real, ?_⟩
  simp only [List.forall_mem_cons, List.not_mem_nil, false_imp_iff, implies_true, and_true]
  exact ⟨has_year.year, has_year.century, has_year.yearOfCentury, agrees⟩

/-! ## Fields that determine a date -/

/-- The fields leave no choice of the date: a century comes with a year of it, and there is a year
with a month and a day, with a day of the year, or with a week and a weekday, or there is an ISO
year with an ISO week and a weekday. -/
structure DeterminesDate (fields : Fields) : Prop where
  century : fields.century.isSome → fields.year.isSome ∨ fields.yearOfCentury.isSome
  parts :
    (fields.year.isSome ∨ fields.yearOfCentury.isSome) ∧
        (fields.month.isSome ∧ fields.day.isSome ∨ fields.ordinal.isSome ∨
          (fields.weekFromSunday.isSome ∨ fields.weekFromMonday.isSome) ∧ fields.weekday.isSome) ∨
      (fields.isoYear.isSome ∨ fields.isoYearOfCentury.isSome) ∧ fields.isoWeek.isSome ∧
        fields.weekday.isSome

theorem resolveYear_eq_known {year century yearOfCentury : Option Int}
    (enough : century.isSome → year.isSome ∨ yearOfCentury.isSome)
    (resolved : resolveYear year century yearOfCentury ≠ .contradiction) :
    ∃ y, resolveYear year century yearOfCentury = .known y ∧
      (year.isSome ∨ yearOfCentury.isSome → y.isSome) := by
  unfold resolveYear at resolved ⊢
  split at resolved
  · exact ⟨_, rfl, by simp⟩
  · split at resolved
    · rename_i agreed
      exact ⟨_, by rw [if_pos agreed], by simp⟩
    · exact absurd rfl resolved
  · exact ⟨_, rfl, by simp⟩
  · exact ⟨_, rfl, by simp⟩
  · simp at enough

theorem isReal_of_candidate? {year isoYear : Option Int} {d : Date}
    (determined : fields.candidate? year isoYear = some (some d)) : d.IsReal := by
  unfold candidate? at determined
  split at determined
  · exact Date.isReal_of_ofMonthDay? (Option.some.inj determined)
  split at determined
  · exact Date.isReal_of_ofOrdinal? (Option.some.inj determined)
  split at determined
  · exact Date.isReal_of_ofWeek? (Option.some.inj determined)
  split at determined
  · exact Date.isReal_of_ofWeek? (Option.some.inj determined)
  split at determined
  · exact Date.isReal_of_ofIsoWeek? (Option.some.inj determined)
  · cases determined

theorem candidate?_ne_none {year isoYear : Option Int}
    (parts : year.isSome ∧ (fields.month.isSome ∧ fields.day.isSome ∨ fields.ordinal.isSome ∨
        (fields.weekFromSunday.isSome ∨ fields.weekFromMonday.isSome) ∧ fields.weekday.isSome) ∨
      isoYear.isSome ∧ fields.isoWeek.isSome ∧ fields.weekday.isSome) :
    fields.candidate? year isoYear ≠ none := by
  intro undetermined
  unfold candidate? at undetermined
  split at undetermined
  · cases undetermined
  rename_i no_month_day
  split at undetermined
  · cases undetermined
  rename_i no_ordinal
  split at undetermined
  · cases undetermined
  rename_i no_week_from_sunday
  split at undetermined
  · cases undetermined
  rename_i no_week_from_monday
  split at undetermined
  · cases undetermined
  rename_i no_iso_week
  simp only [Option.isSome_iff_exists] at parts
  rcases parts with ⟨⟨y, year_eq⟩, ⟨⟨m, month_eq⟩, ⟨n, day_eq⟩⟩ | ⟨n, ordinal_eq⟩ |
    ⟨⟨w, week_eq⟩ | ⟨w, week_eq⟩, ⟨day, weekday_eq⟩⟩⟩ |
    ⟨⟨y, year_eq⟩, ⟨w, week_eq⟩, ⟨day, weekday_eq⟩⟩
  · exact no_month_day y m n year_eq month_eq day_eq
  · exact no_ordinal y n year_eq ordinal_eq
  · exact no_week_from_sunday y w day year_eq week_eq weekday_eq
  · exact no_week_from_monday y w day year_eq week_eq weekday_eq
  · exact no_iso_week y w day year_eq week_eq weekday_eq

theorem hasDay_all (consistent : fields.isConsistent = true) (determines : fields.DeterminesDate) :
    fields.HasDay DateField.all := by
  obtain ⟨year, year_eq, year_set⟩ :=
    resolveYear_eq_known determines.century (resolveYear_ne_contradiction consistent)
  simp only [isConsistent, year_eq] at consistent
  have iso_resolved : resolveYear fields.isoYear none fields.isoYearOfCentury ≠
      .contradiction := by
    intro contradicting
    simp [contradicting] at consistent
  obtain ⟨isoYear, isoYear_eq, isoYear_set⟩ :=
    resolveYear_eq_known (by simp) iso_resolved
  simp only [isoYear_eq] at consistent
  have determined : fields.candidate? year isoYear ≠ none :=
    candidate?_ne_none (determines.parts.imp (And.imp_left year_set) (And.imp_left isoYear_set))
  split at consistent
  · exact absurd ‹_› determined
  · cases consistent
  · rename_i d candidate_eq
    exact ⟨d, isReal_of_candidate? candidate_eq, agreesWith_iff.mp consistent⟩

end Fields

theorem DateFormat.ofString?_eq_some_iff {text : String} {format : DateFormat} :
    ofString? text = some format ↔ format.text = text := by
  unfold ofString?
  constructor
  · intro made
    split at made
    · rw [← Option.some.inj made]
    · cases made
  · rintro rfl
    have cut := format.items_of_text
    split
    · rename_i items known
      obtain rfl := Option.some.inj (known.symm.trans cut)
      rfl
    · rename_i unknown
      cases unknown.symm.trans cut

end RequestParams.Calendar

namespace RequestParams.Rule

open Calendar

theorem mkDatetime_eq_ok_iff {text : String} {rule : Rule} :
    mkDatetime text = .ok rule ↔
      text.isEmpty = false ∧
        ∃ format : DateFormat, format.text = text ∧ rule = datetime format := by
  unfold mkDatetime
  cases text.isEmpty with
  | true => simp
  | false =>
      simp only [Bool.false_eq_true, if_false, true_and, ← DateFormat.ofString?_eq_some_iff]
      cases DateFormat.ofString? text <;> simp [eq_comm]

theorem accepts_datetime_iff {format s : String} {rule : Rule}
    (made : mkDatetime format = .ok rule) :
    rule.accepts (.str s) = true ↔
      ∃ fields, Calendar.Fields.ofText? format s = some fields ∧ fields.isConsistent = true := by
  obtain ⟨-, df, rfl, rfl⟩ := mkDatetime_eq_ok_iff.mp made
  rw [Calendar.Fields.ofText?, df.items_of_text]
  exact Option.any_eq_true _ _

theorem exists_mkDatetime_eq_ok {format : String} {items : List Item}
    (nonempty : format.isEmpty = false) (cut : Item.ofChars? format.toList = some items) :
    ∃ rule, mkDatetime format = .ok rule :=
  ⟨_, mkDatetime_eq_ok_iff.mpr ⟨nonempty, ⟨format, items, cut⟩, rfl, rfl⟩⟩

/-- A text that a format accepts names a time of day, and a day wherever its fields determine one or
are of the year and one other kind; each field about the date is that of some day in any case. -/
theorem accepts_datetime_consistent {format s : String} {rule : Rule}
    (made : mkDatetime format = .ok rule) (accepted : rule.accepts (.str s) = true) :
    ∃ fields, Calendar.Fields.ofText? format s = some fields ∧
      (∃ t, fields.AgreesWithTime t) ∧ (∀ part, fields.HasDay [part]) ∧
      (∀ part ∈ Calendar.Fields.yearly,
        fields.HasDay [.year, .century, .yearOfCentury, part]) ∧
      (fields.DeterminesDate → fields.HasDay DateField.all) := by
  obtain ⟨fields, read, consistent⟩ := (accepts_datetime_iff made).mp accepted
  have inRange := Calendar.Fields.inRange_of_ofText? read
  exact ⟨fields, read, inRange.exists_time, inRange.hasDay_singleton,
    fun part part_mem => inRange.hasDay_yearly consistent part_mem,
    Calendar.Fields.hasDay_all consistent⟩

theorem accepts_datetime_consistent_leap_day :
    ∃ rule fields, mkDatetime "%Y-%m-%d" = .ok rule ∧ rule.accepts (.str "2024-02-29") = true ∧
      Calendar.Fields.ofText? "%Y-%m-%d" "2024-02-29" = some fields ∧ fields.DeterminesDate ∧
      fields.HasDay DateField.all := by
  have cut : Item.ofChars? "%Y-%m-%d".toList =
      some [.number .year, .sign '-', .number .month, .sign '-', .number .day] := by cbv
  have fields_eq : Calendar.Fields.ofText? "%Y-%m-%d" "2024-02-29" =
      some { year := some 2024, month := some 2, day := some 29 } := by
    rw [Calendar.Fields.ofText?, cut]
    decide
  obtain ⟨rule, made⟩ := exists_mkDatetime_eq_ok (by decide) cut
  have accepted := (accepts_datetime_iff made).mpr ⟨_, fields_eq, by decide⟩
  obtain ⟨fields, read, -, -, -, determined⟩ := accepts_datetime_consistent made accepted
  obtain rfl := Option.some.inj (fields_eq.symm.trans read)
  have determines : Calendar.Fields.DeterminesDate
      { year := some 2024, month := some 2, day := some 29 } := ⟨by decide, by decide⟩
  exact ⟨rule, _, made, accepted, read, determines, determined determines⟩

/-- The thirtieth of February is accepted where the format has no year. -/
theorem accepts_datetime_of_no_day :
    ¬∀ (format s : String) (rule : Rule), mkDatetime format = .ok rule →
      rule.accepts (.str s) = true →
      ∃ fields, Calendar.Fields.ofText? format s = some fields ∧ fields.HasDay DateField.all ∧
        ∃ t, fields.AgreesWithTime t := by
  intro consistent
  have cut : Item.ofChars? "%m-%d".toList = some [.number .month, .sign '-', .number .day] := by
    cbv
  have fields_eq : Calendar.Fields.ofText? "%m-%d" "02-30" =
      some { month := some 2, day := some 30 } := by
    rw [Calendar.Fields.ofText?, cut]
    decide
  obtain ⟨rule, made⟩ := exists_mkDatetime_eq_ok (by decide) cut
  have accepted := (accepts_datetime_iff made).mpr ⟨_, fields_eq, by decide⟩
  obtain ⟨fields, read, ⟨d, real, agrees⟩, -⟩ := consistent _ _ _ made accepted
  obtain rfl := Option.some.inj (fields_eq.symm.trans read)
  have month_eq : 2 = d.month := agrees .month (DateField.mem_all _) 2 rfl
  have day_eq : 30 = d.day := agrees .day (DateField.mem_all _) 30 rfl
  obtain ⟨-, -, -, day_le⟩ := Date.isDay_of_isReal real
  rw [← month_eq, ← day_eq] at day_le
  unfold monthLengths at day_le
  split at day_le <;> exact absurd day_le (by decide)

end RequestParams.Rule
