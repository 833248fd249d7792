import RequestParams.Proofs.Calendar.Date
import RequestParams.Proofs.Grammar.IsoLayout
import RequestParams.Rule

/-!
# The language of ISO 8601 dates and times

`Written` is the grammar of dates and times, over a class of digits for the seconds, the fraction
and the offset; date, hour and minute are in ASCII digits always. With ASCII digits throughout it is
the language that the rule is meant to accept, with the decimal digits of all scripts the language
that it does accept. The two differ in texts that hold a digit of another script only.
-/

namespace RequestParams.Grammar

open Text

namespace IsoDatetime

/-! ## The grammar -/

/-- The number that a text writes in ASCII digits, if it does, is at most a bound. -/
def AtMost (bound : Nat) (s : List Char) : Prop := ∀ n, natural? s = some n → n ≤ bound

/-- `YYYY-MM-DD` for a day of the calendar. -/
inductive DateText : List Char → Prop
  | date {year month day : List Char} (year_digits : Digits isDigit 4 year)
      (month_digits : Digits isDigit 2 month) (day_digits : Digits isDigit 2 day)
      (is_day : Calendar.IsDay (digitsValue year) (digitsValue month) (digitsValue day)) :
      DateText (year ++ '-' :: (month ++ '-' :: day))

/-- Nothing, or `:SS` and possibly a fraction. -/
inductive SecondText (digit : Char → Bool) : List Char → Prop
  | absent : SecondText digit []
  | second {second fraction : List Char} (second_digits : Digits digit 2 second)
      (second_le : AtMost 59 second) (fraction_text : FractionText digit fraction) :
      SecondText digit (':' :: (second ++ fraction))

/-- Nothing, `Z`, or a sign and `hh`, `hhmm` or `hh:mm`. -/
inductive OffsetText (digit : Char → Bool) : List Char → Prop
  | absent : OffsetText digit []
  | zulu : OffsetText digit ['Z']
  | hour {sign : Char} {hour : List Char} (sign_mem : sign ∈ ['+', '-'])
      (hour_digits : Digits digit 2 hour) (hour_le : AtMost 23 hour) :
      OffsetText digit (sign :: hour)
  | minute {sign : Char} {hour colon minute : List Char} (sign_mem : sign ∈ ['+', '-'])
      (hour_digits : Digits digit 2 hour) (hour_le : AtMost 23 hour)
      (colon_mem : colon ∈ [[], [':']]) (minute_digits : Digits digit 2 minute)
      (minute_le : (natural? hour).isSome → AtMost 59 minute) :
      OffsetText digit (sign :: (hour ++ (colon ++ minute)))

/-- `HH:MM`, possibly with seconds and an offset. -/
inductive TimeText (digit : Char → Bool) : List Char → Prop
  | time {hour minute second offset : List Char} (hour_digits : Digits isDigit 2 hour)
      (hour_le : AtMost 23 hour) (minute_digits : Digits isDigit 2 minute)
      (minute_le : AtMost 59 minute) (second_text : SecondText digit second)
      (offset_text : OffsetText digit offset) :
      TimeText digit (hour ++ ':' :: (minute ++ (second ++ offset)))

/-- A date, possibly with a time after a `T` or a space. -/
inductive Written (digit : Char → Bool) : List Char → Prop
  | date {date : List Char} (date_text : DateText date) : Written digit date
  | time {date time : List Char} {separator : Char} (date_text : DateText date)
      (separator_mem : separator ∈ ['T', ' ']) (time_text : TimeText digit time) :
      Written digit (date ++ separator :: time)

/-! ## Changing the class of digits -/

theorem Digits.mono {digit other : Char → Bool} {count : Nat} {s : List Char}
    (into : ∀ c ∈ s, digit c = true → other c = true) (digits : Digits digit count s) :
    Digits other count s :=
  ⟨digits.1, fun c c_mem => into c c_mem (digits.2 c c_mem)⟩

theorem FractionText.mono {digit other : Char → Bool} {s : List Char}
    (into : ∀ c ∈ s, digit c = true → other c = true) (text : FractionText digit s) :
    FractionText other s := by
  cases text with
  | absent => exact .absent
  | digits length_pos length_le all_digits =>
      exact .digits length_pos length_le fun c c_mem =>
        into c (List.mem_cons_of_mem _ c_mem) (all_digits c c_mem)

theorem SecondText.mono {digit other : Char → Bool} {s : List Char}
    (into : ∀ c ∈ s, digit c = true → other c = true) (text : SecondText digit s) :
    SecondText other s := by
  cases text with
  | absent => exact .absent
  | second second_digits second_le fraction_text =>
      simp only [List.forall_mem_cons, List.forall_mem_append] at into
      exact .second (second_digits.mono into.2.1) second_le (fraction_text.mono into.2.2)

theorem OffsetText.mono {digit other : Char → Bool} {s : List Char}
    (into : ∀ c ∈ s, digit c = true → other c = true) (text : OffsetText digit s) :
    OffsetText other s := by
  cases text with
  | absent => exact .absent
  | zulu => exact .zulu
  | hour sign_mem hour_digits hour_le =>
      simp only [List.forall_mem_cons] at into
      exact .hour sign_mem (hour_digits.mono into.2) hour_le
  | minute sign_mem hour_digits hour_le colon_mem minute_digits minute_le =>
      simp only [List.forall_mem_cons, List.forall_mem_append] at into
      exact .minute sign_mem (hour_digits.mono into.2.1) hour_le colon_mem
        (minute_digits.mono into.2.2.2) minute_le

theorem TimeText.mono {digit other : Char → Bool} {s : List Char}
    (into : ∀ c ∈ s, digit c = true → other c = true) (text : TimeText digit s) :
    TimeText other s := by
  cases text with
  | time hour_digits hour_le minute_digits minute_le second_text offset_text =>
      simp only [List.forall_mem_cons, List.forall_mem_append] at into
      exact .time hour_digits hour_le minute_digits minute_le
        (second_text.mono into.2.2.2.1) (offset_text.mono into.2.2.2.2)

theorem Written.mono {digit other : Char → Bool} {s : List Char}
    (into : ∀ c ∈ s, digit c = true → other c = true) (written : Written digit s) :
    Written other s := by
  cases written with
  | date date_text => exact .date date_text
  | time date_text separator_mem time_text =>
      simp only [List.forall_mem_cons, List.forall_mem_append] at into
      exact .time date_text separator_mem (time_text.mono into.2.2)

/-! ## Layouts of valid parts -/

/-- Hours and minutes of an offset are in their ranges, as far as they write numbers. -/
def OffsetHolds : Option (List Char × Option (List Char)) → Prop
  | none => True
  | some (hour, minute) =>
    AtMost 23 hour ∧ ((natural? hour).isSome → ∀ digits ∈ minute, AtMost 59 digits)

/-- Where a number is asked for, digits of other scripts are refused with it. -/
theorem exists_natural?_le_iff {count bound : Nat} {s : List Char} (count_pos : 0 < count)
    (decimal : Digits isDecimalDigit count s) :
    (∃ n, natural? s = some n ∧ n ≤ bound) ↔ Digits isDigit count s ∧ AtMost bound s := by
  constructor
  · rintro ⟨n, written, n_le⟩
    refine ⟨⟨decimal.1, ((natural?_eq_some_iff s n).mp written).2.1⟩, fun m also_written => ?_⟩
    rw [written] at also_written
    exact Option.some.inj also_written ▸ n_le
  · rintro ⟨digits, at_most⟩
    have nonempty : s ≠ [] := List.ne_nil_of_length_pos (by rw [digits.1]; exact count_pos)
    have written := (natural?_eq_some_iff s _).mpr ⟨nonempty, digits.2, rfl⟩
    exact ⟨_, written, at_most _ written⟩

theorem hasValidOffset_iff (t : IsoTime) : t.hasValidOffset = true ↔ OffsetHolds t.offset := by
  unfold IsoTime.hasValidOffset OffsetHolds
  cases t.offset with
  | none => simp
  | some offset =>
      obtain ⟨hour, minute⟩ := offset
      cases written : natural? hour with
      | none => simp [AtMost, written]
      | some h =>
          have minute_iff : (minute.bind natural?).all (· ≤ 59) = true ↔
              ∀ digits ∈ minute, AtMost 59 digits := by
            cases minute with
            | none => simp
            | some digits => simp [AtMost, Option.all_eq_true]
          simp [AtMost, written, minute_iff]

theorem isValid_iff (t : IsoTime) :
    t.isValid = true ↔
      (∃ h, natural? t.hour = some h ∧ h ≤ 23) ∧ (∃ m, natural? t.minute = some m ∧ m ≤ 59) ∧
        ((t.second.bind natural?).getD 0) ≤ 59 ∧ OffsetHolds t.offset := by
  rw [← hasValidOffset_iff, IsoTime.isValid]
  cases natural? t.hour <;> cases natural? t.minute <;> simp [and_assoc]

theorem secondText_iff {s : List Char} :
    SecondText isDecimalDigit s ↔
      ∃ second, SecondLayout second s ∧ ((second.bind natural?).getD 0) ≤ 59 := by
  constructor
  · intro text
    cases text with
    | absent => exact ⟨none, .absent, by simp⟩
    | @second second fraction second_digits second_le fraction_text =>
        refine ⟨some second, .second second_digits fraction_text, ?_⟩
        cases written : natural? second with
        | none => simp [written]
        | some n => simpa [written] using second_le n written
  · rintro ⟨_, layout, second_le⟩
    cases layout with
    | absent => exact .absent
    | second second_digits fraction_text =>
        refine .second second_digits (fun n written => ?_) fraction_text
        simpa [written] using second_le

theorem offsetText_iff {s : List Char} :
    OffsetText isDecimalDigit s ↔ ∃ offset, OffsetLayout offset s ∧ OffsetHolds offset := by
  constructor
  · intro text
    cases text with
    | absent => exact ⟨none, .absent, trivial⟩
    | zulu => exact ⟨none, .zulu, trivial⟩
    | hour sign_mem hour_digits hour_le =>
        exact ⟨_, .hour sign_mem hour_digits, hour_le,
          fun _ digits digits_mem => nomatch digits_mem⟩
    | minute sign_mem hour_digits hour_le colon_mem minute_digits minute_le =>
        refine ⟨_, .minute sign_mem hour_digits colon_mem minute_digits, hour_le,
          fun written digits digits_mem => ?_⟩
        obtain rfl := Option.mem_some_iff.mp digits_mem
        exact minute_le written
  · rintro ⟨_, layout, holds⟩
    cases layout with
    | absent => exact .absent
    | zulu => exact .zulu
    | hour sign_mem hour_digits => exact .hour sign_mem hour_digits holds.1
    | minute sign_mem hour_digits colon_mem minute_digits =>
        exact .minute sign_mem hour_digits holds.1 colon_mem minute_digits
          fun written => holds.2 written _ rfl

theorem timeText_iff {s : List Char} :
    TimeText isDecimalDigit s ↔ ∃ t, TimeLayout t s ∧ t.isValid = true := by
  constructor
  · rintro ⟨hour_digits, hour_le, minute_digits, minute_le, second_text, offset_text⟩
    obtain ⟨second, second_layout, second_le⟩ := secondText_iff.mp second_text
    obtain ⟨offset, offset_layout, offset_holds⟩ := offsetText_iff.mp offset_text
    have hour_decimal := hour_digits.mono fun c _ => isDecimalDigit_of_isDigit
    have minute_decimal := minute_digits.mono fun c _ => isDecimalDigit_of_isDigit
    refine ⟨_, .time hour_decimal minute_decimal second_layout offset_layout,
      (isValid_iff _).mpr ⟨?_, ?_, second_le, offset_holds⟩⟩
    · exact (exists_natural?_le_iff (by omega) hour_decimal).mpr ⟨hour_digits, hour_le⟩
    · exact (exists_natural?_le_iff (by omega) minute_decimal).mpr ⟨minute_digits, minute_le⟩
  · rintro ⟨_, ⟨hour_decimal, minute_decimal, second_layout, offset_layout⟩, valid⟩
    obtain ⟨hour_valid, minute_valid, second_le, offset_holds⟩ := (isValid_iff _).mp valid
    obtain ⟨hour_digits, hour_le⟩ := (exists_natural?_le_iff (by omega) hour_decimal).mp hour_valid
    obtain ⟨minute_digits, minute_le⟩ :=
      (exists_natural?_le_iff (by omega) minute_decimal).mp minute_valid
    exact .time hour_digits hour_le minute_digits minute_le
      (secondText_iff.mpr ⟨_, second_layout, second_le⟩)
      (offsetText_iff.mpr ⟨_, offset_layout, offset_holds⟩)

/-- The parts of a date name a day if they are ASCII digits that do. -/
theorem isSome_date?_iff (d : IsoDatetime) (year_decimal : Digits isDecimalDigit 4 d.year)
    (month_decimal : Digits isDecimalDigit 2 d.month)
    (day_decimal : Digits isDecimalDigit 2 d.day) :
    d.date?.isSome ↔ Digits isDigit 4 d.year ∧ Digits isDigit 2 d.month ∧ Digits isDigit 2 d.day ∧
      Calendar.IsDay (digitsValue d.year) (digitsValue d.month) (digitsValue d.day) := by
  constructor
  · intro named
    obtain ⟨date, date_eq⟩ := Option.isSome_iff_exists.mp named
    obtain ⟨year, year_eq, date_eq⟩ := Option.bind_eq_some_iff.mp date_eq
    obtain ⟨month, month_eq, date_eq⟩ := Option.bind_eq_some_iff.mp date_eq
    obtain ⟨day, day_eq, date_eq⟩ := Option.bind_eq_some_iff.mp date_eq
    obtain ⟨-, year_ascii, rfl⟩ := (natural?_eq_some_iff _ _).mp year_eq
    obtain ⟨-, month_ascii, rfl⟩ := (natural?_eq_some_iff _ _).mp month_eq
    obtain ⟨-, day_ascii, rfl⟩ := (natural?_eq_some_iff _ _).mp day_eq
    have year_digits : Digits isDigit 4 d.year := ⟨year_decimal.1, year_ascii⟩
    refine ⟨year_digits, ⟨month_decimal.1, month_ascii⟩, ⟨day_decimal.1, day_ascii⟩, ?_⟩
    exact (Calendar.Date.ofMonthDay?_eq_some_iff.mp date_eq).2.1
  · rintro ⟨year_digits, month_digits, day_digits, is_day⟩
    have in_range : Calendar.inRange (digitsValue d.year) = true := by
      have below := digitsValue_lt year_digits.2
      have power_eq : Nat.pow 10 4 = 10000 := rfl
      rw [year_digits.1, power_eq] at below
      have first_eq : Calendar.firstYear = -262143 := rfl
      have last_eq : Calendar.lastYear = 262142 := rfl
      rw [Calendar.inRange, Bool.and_eq_true, decide_eq_true_iff, decide_eq_true_iff]
      omega
    have written {count : Nat} {part : List Char} (digits : Digits isDigit (count + 1) part) :
        natural? part = some (digitsValue part) :=
      (natural?_eq_some_iff _ _).mpr
        ⟨List.ne_nil_of_length_pos (by rw [digits.1]; omega), digits.2, rfl⟩
    rw [date?, written year_digits, written month_digits, written day_digits]
    exact Option.isSome_iff_exists.mpr
      ⟨_, Calendar.Date.ofMonthDay?_eq_some_iff.mpr ⟨in_range, is_day, rfl⟩⟩

theorem DateText.exists_layout_append {date rest : List Char} {time : Option IsoTime}
    (date_text : DateText date) (time_part : TimePartLayout time rest)
    (time_valid : time.all IsoTime.isValid = true) :
    ∃ d, Layout d (date ++ rest) ∧ d.isValid = true := by
  cases date_text with
  | @date year month day year_digits month_digits day_digits is_day =>
      have year_decimal := year_digits.mono fun c _ => isDecimalDigit_of_isDigit
      have month_decimal := month_digits.mono fun c _ => isDecimalDigit_of_isDigit
      have day_decimal := day_digits.mono fun c _ => isDecimalDigit_of_isDigit
      refine ⟨⟨year, month, day, time⟩, ?_, Bool.and_eq_true_iff.mpr ⟨?_, time_valid⟩⟩
      · simpa using Layout.date year_decimal month_decimal day_decimal time_part
      · exact (isSome_date?_iff _ year_decimal month_decimal day_decimal).mpr
          ⟨year_digits, month_digits, day_digits, is_day⟩

/-- What is written in the grammar is laid out as parts that name a date and a time. -/
theorem written_iff {s : List Char} :
    Written isDecimalDigit s ↔ ∃ d, Layout d s ∧ d.isValid = true := by
  constructor
  · intro written
    cases written with
    | date date_text => simpa using date_text.exists_layout_append .absent rfl
    | time date_text separator_mem time_text =>
        obtain ⟨t, time_layout, time_valid⟩ := timeText_iff.mp time_text
        exact date_text.exists_layout_append (.time separator_mem time_layout) time_valid
  · rintro ⟨_, ⟨year_decimal, month_decimal, day_decimal, time_part⟩, valid⟩
    obtain ⟨date_named, time_valid⟩ := Bool.and_eq_true_iff.mp valid
    obtain ⟨year_digits, month_digits, day_digits, is_day⟩ :=
      (isSome_date?_iff _ year_decimal month_decimal day_decimal).mp date_named
    have date_text := DateText.date year_digits month_digits day_digits is_day
    cases time_part with
    | absent =>
        rw [List.append_nil]
        exact .date date_text
    | time separator_mem time_layout =>
        have time_text := timeText_iff.mpr ⟨_, time_layout, time_valid⟩
        simpa using Written.time date_text separator_mem time_text

theorem exists_ofChars?_iff {s : List Char} :
    (∃ d, ofChars? s = some d ∧ d.isValid = true) ↔ Written isDecimalDigit s := by
  simp only [ofChars?_eq_some_iff, written_iff]

/-! ## The two languages -/

/-- A text of ASCII characters. -/
def IsAscii (s : List Char) : Prop := ∀ c ∈ s, c.toNat < 128

instance : DecidablePred IsAscii := fun _ => List.decidableBAll _ _

theorem isAscii_append_iff (s t : List Char) : IsAscii (s ++ t) ↔ IsAscii s ∧ IsAscii t :=
  List.forall_mem_append

theorem isAscii_cons_iff (c : Char) (s : List Char) :
    IsAscii (c :: s) ↔ c.toNat < 128 ∧ IsAscii s :=
  List.forall_mem_cons

theorem isAscii_of_digits {s : List Char} (digits : ∀ c ∈ s, isDigit c = true) : IsAscii s := by
  intro c c_mem
  have bounds := (isDigit_iff c).mp (digits c c_mem)
  omega

theorem Digits.isAscii {count : Nat} {s : List Char} (digits : Digits isDigit count s) :
    IsAscii s :=
  isAscii_of_digits digits.2

theorem DateText.isAscii {s : List Char} (text : DateText s) : IsAscii s := by
  cases text with
  | date year_digits month_digits day_digits =>
      have hyphen : '-'.toNat < 128 := by decide
      simp only [isAscii_append_iff, isAscii_cons_iff]
      exact ⟨year_digits.isAscii, hyphen, month_digits.isAscii, hyphen, day_digits.isAscii⟩

theorem SecondText.isAscii {s : List Char} (text : SecondText isDigit s) : IsAscii s := by
  cases text with
  | absent => exact List.forall_mem_nil _
  | second second_digits second_le fraction_text =>
      simp only [isAscii_append_iff, isAscii_cons_iff]
      refine ⟨by decide, second_digits.isAscii, ?_⟩
      cases fraction_text with
      | absent => exact List.forall_mem_nil _
      | digits length_pos length_le all_digits =>
          exact (isAscii_cons_iff _ _).mpr ⟨by decide, isAscii_of_digits all_digits⟩

theorem OffsetText.isAscii {s : List Char} (text : OffsetText isDigit s) : IsAscii s := by
  have signs : IsAscii ['+', '-'] := by decide
  cases text with
  | absent => exact List.forall_mem_nil _
  | zulu => decide
  | hour sign_mem hour_digits =>
      exact (isAscii_cons_iff _ _).mpr ⟨signs _ sign_mem, hour_digits.isAscii⟩
  | minute sign_mem hour_digits hour_le colon_mem minute_digits =>
      have colons : ∀ colon ∈ [[], [':']], IsAscii colon := by decide
      simp only [isAscii_append_iff, isAscii_cons_iff]
      exact ⟨signs _ sign_mem, hour_digits.isAscii, colons _ colon_mem, minute_digits.isAscii⟩

theorem Written.isAscii {s : List Char} (written : Written isDigit s) : IsAscii s := by
  cases written with
  | date date_text => exact date_text.isAscii
  | time date_text separator_mem time_text =>
      have separators : IsAscii ['T', ' '] := by decide
      cases time_text with
      | time hour_digits hour_le minute_digits minute_le second_text offset_text =>
          simp only [isAscii_append_iff, isAscii_cons_iff]
          exact ⟨date_text.isAscii, separators _ separator_mem, hour_digits.isAscii, by decide,
            minute_digits.isAscii, second_text.isAscii, offset_text.isAscii⟩

/-- Of the texts in decimal digits of all scripts, those in ASCII are in ASCII digits. -/
theorem written_isDigit_iff (s : List Char) :
    Written isDigit s ↔ Written isDecimalDigit s ∧ IsAscii s := by
  constructor
  · intro written
    exact ⟨written.mono fun c _ => isDecimalDigit_of_isDigit, written.isAscii⟩
  · rintro ⟨written, ascii⟩
    exact written.mono fun c c_mem decimal => isDigit_of_isDecimalDigit decimal (ascii c c_mem)

end IsoDatetime

end RequestParams.Grammar

namespace RequestParams.Rule

open Grammar.IsoDatetime Text

/-- The rule accepts a text exactly if it is written in the grammar with the decimal digits of all
scripts in seconds, fraction and offset. What is written in ASCII digits throughout is exactly what
it accepts of the texts in ASCII, so that the rule and its grammar part over a text only where it
has other digits in those places. By `accepts_regex_isoDatetimePattern` these texts are matched by
the pattern of dates and times, and are those of its texts that name a date and a time. -/
theorem accepts_isoDatetime_iff (s : String) :
    (isoDatetime.accepts (.str s) = true ↔ Written isDecimalDigit s.toList) ∧
    (Written isDigit s.toList ↔ isoDatetime.accepts (.str s) = true ∧ IsAscii s.toList) ∧
    ((isoDatetime.accepts (.str s) = true ↔ Written isDigit s.toList) ↔
      ¬(Written isDecimalDigit s.toList ∧ ¬IsAscii s.toList)) := by
  have accepts_iff : isoDatetime.accepts (.str s) = true ↔ Written isDecimalDigit s.toList := by
    rw [← exists_ofChars?_iff, ← Option.any_eq_true]
    rfl
  have written_iff := written_isDigit_iff s.toList
  refine ⟨accepts_iff, ?_, ?_⟩
  · rw [written_iff, accepts_iff]
  · rw [accepts_iff, written_iff]
    tauto

/-- The ninety-ninth second of a minute is refused in ASCII digits and accepted in Arabic ones. -/
theorem accepts_isoDatetime_of_other_digits :
    ¬∀ s : String, isoDatetime.accepts (.str s) = true ↔ Written isDigit s.toList := by
  intro agree
  have accepted : isoDatetime.accepts (.str "2017-03-16T10:55:٩٩") = true := by decide
  have ascii := ((agree _).mp accepted).isAscii
  exact absurd (ascii '٩' (by decide)) (by decide)

end RequestParams.Rule
