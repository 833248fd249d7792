import Mathlib.Data.List.TakeWhile
import RequestParams.Grammar.IsoDatetime
import RequestParams.Proofs.Text.Digits

/-!
# The layout of ISO 8601 dates and times

A text is laid out as a date and time if it is the parts of it, in decimal digits of any script,
with their signs between them. Whether the parts write a date and a time of day is left aside. The
reader finds exactly the parts that a text is laid out as, so that no text is laid out in two ways.
-/

namespace RequestParams.Grammar.IsoDatetime

open Text

/-! ## The parts of a text -/

/-- So many digits of a class. -/
def Digits (digit : Char → Bool) (count : Nat) (s : List Char) : Prop :=
  s.length = count ∧ ∀ c ∈ s, digit c = true

/-- Nothing, or a point and one to six digits. -/
inductive FractionText (digit : Char → Bool) : List Char → Prop
  | absent : FractionText digit []
  | digits {digits : List Char} (length_pos : 1 ≤ digits.length) (length_le : digits.length ≤ 6)
      (all_digits : ∀ c ∈ digits, digit c = true) : FractionText digit ('.' :: digits)

/-- Nothing, or `:SS` and possibly a fraction. -/
inductive SecondLayout : Option (List Char) → List Char → Prop
  | absent : SecondLayout none []
  | second {second fraction : List Char} (second_digits : Digits isDecimalDigit 2 second)
      (fraction_text : FractionText isDecimalDigit fraction) :
      SecondLayout (some second) (':' :: (second ++ fraction))

/-- Nothing, `Z`, or a sign and `hh`, `hhmm` or `hh:mm`. -/
inductive OffsetLayout : Option (List Char × Option (List Char)) → List Char → Prop
  | absent : OffsetLayout none []
  | zulu : OffsetLayout none ['Z']
  | hour {sign : Char} {hour : List Char} (sign_mem : sign ∈ ['+', '-'])
      (hour_digits : Digits isDecimalDigit 2 hour) : OffsetLayout (some (hour, none)) (sign :: hour)
  | minute {sign : Char} {hour colon minute : List Char} (sign_mem : sign ∈ ['+', '-'])
      (hour_digits : Digits isDecimalDigit 2 hour) (colon_mem : colon ∈ [[], [':']])
      (minute_digits : Digits isDecimalDigit 2 minute) :
      OffsetLayout (some (hour, some minute)) (sign :: (hour ++ (colon ++ minute)))

/-- `HH:MM`, possibly with seconds and an offset. -/
inductive TimeLayout : IsoTime → List Char → Prop
  | time {hour minute seconds distance : List Char} {second : Option (List Char)}
      {offset : Option (List Char × Option (List Char))}
      (hour_digits : Digits isDecimalDigit 2 hour) (minute_digits : Digits isDecimalDigit 2 minute)
      (second_layout : SecondLayout second seconds)
      (offset_layout : OffsetLayout offset distance) :
      TimeLayout ⟨hour, minute, second, offset⟩
        (hour ++ ':' :: (minute ++ (seconds ++ distance)))

/-- Nothing, or a time after a `T` or a space. -/
inductive TimePartLayout : Option IsoTime → List Char → Prop
  | absent : TimePartLayout none []
  | time {separator : Char} {s : List Char} {t : IsoTime} (separator_mem : separator ∈ ['T', ' '])
      (time_layout : TimeLayout t s) : TimePartLayout (some t) (separator :: s)

/-- `YYYY-MM-DD`, possibly with a time. -/
inductive Layout : IsoDatetime → List Char → Prop
  | date {year month day s : List Char} {time : Option IsoTime}
      (year_digits : Digits isDecimalDigit 4 year) (month_digits : Digits isDecimalDigit 2 month)
      (day_digits : Digits isDecimalDigit 2 day) (time_part : TimePartLayout time s) :
      Layout ⟨year, month, day, time⟩ (year ++ '-' :: (month ++ '-' :: (day ++ s)))

/-! ## The reader -/

theorem takeDigits?_eq_some_iff {count : Nat} {s digits rest : List Char} :
    takeDigits? count s = some (digits, rest) ↔
      s = digits ++ rest ∧ Digits isDecimalDigit count digits := by
  simp only [takeDigits?, Option.ite_none_right_eq_some, Option.some.injEq, Prod.mk.injEq,
    List.all_eq_true]
  constructor
  · rintro ⟨shaped, rfl, rfl⟩
    exact ⟨(List.take_append_drop count s).symm, shaped⟩
  · rintro ⟨rfl, length_eq, all_digits⟩
    have front : (digits ++ rest).take count = digits := List.take_left' length_eq
    have back : (digits ++ rest).drop count = rest := List.drop_left' length_eq
    rw [front, back]
    exact ⟨⟨length_eq, all_digits⟩, rfl, rfl⟩

theorem Digits.takeDigits?_append {count : Nat} {digits : List Char}
    (all_digits : Digits isDecimalDigit count digits) (rest : List Char) :
    takeDigits? count (digits ++ rest) = some (digits, rest) :=
  takeDigits?_eq_some_iff.mpr ⟨rfl, all_digits⟩

theorem Digits.takeDigits?_eq {count : Nat} {digits : List Char}
    (all_digits : Digits isDecimalDigit count digits) :
    takeDigits? count digits = some (digits, []) :=
  takeDigits?_eq_some_iff.mpr ⟨(List.append_nil digits).symm, all_digits⟩

theorem Digits.ne_cons {count : Nat} {s : List Char} (digits : Digits isDecimalDigit count s)
    {c : Char} (no_digit : isDecimalDigit c = false) (rest : List Char) : s ≠ c :: rest := by
  rintro rfl
  have digit := digits.2 c List.mem_cons_self
  rw [no_digit] at digit
  cases digit

theorem takeSign?_eq_some_iff {sign : Char} {s rest : List Char} :
    takeSign? sign s = some rest ↔ s = sign :: rest := by
  cases s with
  | nil => simp [takeSign?]
  | cons c s => simp [takeSign?]

/-- The text is at its end or goes on with an offset. -/
def AtOffset (s : List Char) : Prop := ∀ c ∈ s.head?, c ∈ ['Z', '+', '-']

theorem OffsetLayout.atOffset {offset : Option (List Char × Option (List Char))} {s : List Char}
    (layout : OffsetLayout offset s) : AtOffset s := by
  intro c c_mem
  cases layout with
  | absent => cases c_mem
  | zulu =>
      obtain rfl := Option.mem_some_iff.mp c_mem
      decide
  | hour sign_mem | minute sign_mem =>
      obtain rfl := Option.mem_some_iff.mp c_mem
      exact List.mem_cons_of_mem _ sign_mem

theorem AtOffset.ne_of_not_mem {c : Char} {s : List Char} (at_offset : AtOffset (c :: s))
    {other : Char} (other_not_mem : other ∉ ['Z', '+', '-']) : c ≠ other := by
  rintro rfl
  exact other_not_mem (at_offset c rfl)

theorem AtOffset.takeWhile_eq_nil {s : List Char} (at_offset : AtOffset s) :
    s.takeWhile isDecimalDigit = [] := by
  cases s with
  | nil => rfl
  | cons c s =>
      have no_digits : ∀ c ∈ ['Z', '+', '-'], isDecimalDigit c = false := by
        simp only [List.forall_mem_cons, List.not_mem_nil, false_imp_iff, implies_true, and_true]
        decide
      exact List.takeWhile_cons_of_neg (by simp [no_digits c (at_offset c rfl)])

theorem exists_fraction_of_takeFraction? {s rest : List Char}
    (taken : takeFraction? s = some rest) :
    ∃ fraction, s = fraction ++ rest ∧ FractionText isDecimalDigit fraction := by
  unfold takeFraction? at taken
  split at taken
  · rename_i after
    obtain ⟨⟨length_pos, length_le⟩, rest_eq⟩ := Option.ite_none_right_eq_some.mp taken
    obtain rfl := Option.some.inj rest_eq
    have after_digits : (after.takeWhile isDecimalDigit ++ after.dropWhile isDecimalDigit).drop
        (after.takeWhile isDecimalDigit).length = after.dropWhile isDecimalDigit := List.drop_left
    rw [List.takeWhile_append_dropWhile] at after_digits
    refine ⟨'.' :: after.takeWhile isDecimalDigit, ?_,
      .digits length_pos length_le fun c c_mem => List.mem_takeWhile_imp c_mem⟩
    rw [after_digits, List.cons_append, List.takeWhile_append_dropWhile]
  · exact ⟨[], Option.some.inj taken, .absent⟩

theorem takeFraction?_append {fraction rest : List Char}
    (text : FractionText isDecimalDigit fraction) (at_offset : AtOffset rest) :
    takeFraction? (fraction ++ rest) = some rest := by
  cases text with
  | absent =>
      cases rest with
      | nil => rfl
      | cons c rest =>
          have no_point : c ≠ '.' := at_offset.ne_of_not_mem (by decide)
          rw [List.nil_append, takeFraction?]
          intro after starts
          exact no_point (List.cons.inj starts).1
  | @digits digits length_pos length_le all_digits =>
      have run : (digits ++ rest).takeWhile isDecimalDigit = digits := by
        rw [List.takeWhile_append_of_pos all_digits, at_offset.takeWhile_eq_nil, List.append_nil]
      simp [takeFraction?, run, length_pos, length_le]

theorem exists_layout_of_takeSecond? {s rest : List Char} {second : Option (List Char)}
    (taken : takeSecond? s = some (second, rest)) :
    ∃ seconds, s = seconds ++ rest ∧ SecondLayout second seconds := by
  unfold takeSecond? at taken
  split at taken
  · rename_i after
    obtain ⟨⟨digits, after_digits⟩, digits_taken, taken⟩ := Option.bind_eq_some_iff.mp taken
    obtain ⟨after_fraction, fraction_taken, taken⟩ := Option.bind_eq_some_iff.mp taken
    obtain ⟨rfl, rfl⟩ := Prod.mk.inj (Option.some.inj taken)
    obtain ⟨rfl, second_digits⟩ := takeDigits?_eq_some_iff.mp digits_taken
    obtain ⟨fraction, rfl, fraction_text⟩ := exists_fraction_of_takeFraction? fraction_taken
    exact ⟨':' :: (digits ++ fraction), by simp, .second second_digits fraction_text⟩
  · obtain ⟨rfl, rfl⟩ := Prod.mk.inj (Option.some.inj taken)
    exact ⟨[], rfl, .absent⟩

theorem takeSecond?_append {second : Option (List Char)} {seconds rest : List Char}
    (layout : SecondLayout second seconds) (at_offset : AtOffset rest) :
    takeSecond? (seconds ++ rest) = some (second, rest) := by
  cases layout with
  | absent =>
      cases rest with
      | nil => rfl
      | cons c rest =>
          have no_colon : c ≠ ':' := at_offset.ne_of_not_mem (by decide)
          rw [List.nil_append, takeSecond?]
          intro after starts
          exact no_colon (List.cons.inj starts).1
  | @second digits fraction second_digits fraction_text =>
      have digits_taken := second_digits.takeDigits?_append (fraction ++ rest)
      have fraction_taken := takeFraction?_append fraction_text at_offset
      simp [takeSecond?, digits_taken, fraction_taken]

theorem readOffsetMinute?_eq_some_iff {s minute : List Char} :
    readOffsetMinute? s = some minute ↔
      ∃ colon ∈ [[], [':']], s = colon ++ minute ∧ Digits isDecimalDigit 2 minute := by
  constructor
  · intro read
    obtain ⟨⟨digits, rest⟩, taken, ended⟩ := Option.bind_eq_some_iff.mp read
    obtain ⟨empty, digits_eq⟩ := Option.ite_none_right_eq_some.mp ended
    obtain rfl := Option.some.inj digits_eq
    obtain rfl := List.isEmpty_iff.mp empty
    split at taken
    · obtain ⟨rfl, digits⟩ := takeDigits?_eq_some_iff.mp taken
      exact ⟨[':'], by simp, by simp, digits⟩
    · obtain ⟨rfl, digits⟩ := takeDigits?_eq_some_iff.mp taken
      exact ⟨[], by simp, by simp, digits⟩
  · rintro ⟨colon, colon_mem, rfl, digits⟩
    have no_colon : ∀ rest, minute ≠ ':' :: rest := digits.ne_cons (by decide)
    obtain rfl | rfl : colon = [] ∨ colon = [':'] := by simpa using colon_mem
    · rw [List.nil_append, readOffsetMinute?]
      · simp [digits.takeDigits?_eq]
      · exact no_colon
    · simp [readOffsetMinute?, digits.takeDigits?_eq]

theorem readOffsetDigits?_eq_some_iff {sign : Char} (sign_mem : sign ∈ ['+', '-'])
    {s : List Char} {parts : List Char × Option (List Char)} :
    readOffsetDigits? s = some parts ↔ OffsetLayout (some parts) (sign :: s) := by
  constructor
  · intro read
    obtain ⟨⟨hour, rest⟩, hour_taken, rest_read⟩ := Option.bind_eq_some_iff.mp read
    obtain ⟨rfl, hour_digits⟩ := takeDigits?_eq_some_iff.mp hour_taken
    dsimp only at rest_read
    split at rest_read
    · rename_i ended
      obtain rfl := List.isEmpty_iff.mp ended
      obtain rfl := Option.some.inj rest_read
      rw [List.append_nil]
      exact .hour sign_mem hour_digits
    · obtain ⟨minute, minute_read, parts_eq⟩ := Option.bind_eq_some_iff.mp rest_read
      obtain rfl := Option.some.inj parts_eq
      obtain ⟨colon, colon_mem, rfl, minute_digits⟩ := readOffsetMinute?_eq_some_iff.mp minute_read
      exact .minute sign_mem hour_digits colon_mem minute_digits
  · intro layout
    cases layout with
    | hour _ hour_digits => simp [readOffsetDigits?, hour_digits.takeDigits?_eq]
    | @minute _ hour colon minute _ hour_digits colon_mem minute_digits =>
        have minute_read : readOffsetMinute? (colon ++ minute) = some minute :=
          readOffsetMinute?_eq_some_iff.mpr ⟨colon, colon_mem, rfl, minute_digits⟩
        have minute_ne : minute ≠ [] := List.ne_nil_of_length_pos (by rw [minute_digits.1]; omega)
        simp [readOffsetDigits?, hour_digits.takeDigits?_append, minute_read, minute_ne]

theorem readOffset?_eq_some_iff {s : List Char}
    {offset : Option (List Char × Option (List Char))} :
    readOffset? s = some offset ↔ OffsetLayout offset s := by
  have of_sign {sign : Char} {rest : List Char} (sign_mem : sign ∈ ['+', '-']) :
      (readOffsetDigits? rest).map some = some offset ↔ OffsetLayout offset (sign :: rest) := by
    cases offset with
    | none =>
        simp only [Option.map_eq_some_iff, reduceCtorEq, and_false, exists_false, false_iff]
        intro layout
        cases layout with
        | zulu => exact absurd sign_mem (by decide)
    | some parts =>
        rw [← readOffsetDigits?_eq_some_iff sign_mem]
        simp
  unfold readOffset?
  split
  · constructor
    · intro read
      obtain rfl := Option.some.inj read
      exact .absent
    · intro layout
      cases layout with
      | absent => rfl
  · constructor
    · intro read
      obtain rfl := Option.some.inj read
      exact .zulu
    · intro layout
      generalize text_eq : ['Z'] = s at layout
      cases layout with
      | absent => cases text_eq
      | zulu => rfl
      | hour sign_mem | minute sign_mem =>
          rw [← (List.cons.inj text_eq).1] at sign_mem
          exact absurd sign_mem (by decide)
  · exact of_sign (by decide)
  · exact of_sign (by decide)
  · rename_i not_nil not_zulu not_plus not_minus
    simp only [reduceCtorEq, false_iff]
    intro layout
    cases layout with
    | absent => exact not_nil rfl
    | zulu => exact not_zulu rfl
    | hour sign_mem | minute sign_mem =>
        simp only [List.mem_cons, List.not_mem_nil, or_false] at sign_mem
        rcases sign_mem with rfl | rfl
        · exact not_plus _ rfl
        · exact not_minus _ rfl

theorem readTime?_eq_some_iff {s : List Char} {t : IsoTime} :
    readTime? s = some t ↔ TimeLayout t s := by
  constructor
  · intro read
    obtain ⟨⟨hour, after_hour⟩, hour_taken, read⟩ := Option.bind_eq_some_iff.mp read
    obtain ⟨after_colon, colon_taken, read⟩ := Option.bind_eq_some_iff.mp read
    obtain ⟨⟨minute, after_minute⟩, minute_taken, read⟩ := Option.bind_eq_some_iff.mp read
    obtain ⟨⟨second, after_second⟩, second_taken, read⟩ := Option.bind_eq_some_iff.mp read
    obtain ⟨offset, offset_read, read⟩ := Option.bind_eq_some_iff.mp read
    obtain rfl := Option.some.inj read
    obtain ⟨rfl, hour_digits⟩ := takeDigits?_eq_some_iff.mp hour_taken
    obtain rfl := takeSign?_eq_some_iff.mp colon_taken
    obtain ⟨rfl, minute_digits⟩ := takeDigits?_eq_some_iff.mp minute_taken
    obtain ⟨seconds, rfl, second_layout⟩ := exists_layout_of_takeSecond? second_taken
    exact .time hour_digits minute_digits second_layout (readOffset?_eq_some_iff.mp offset_read)
  · rintro ⟨hour_digits, minute_digits, second_layout, offset_layout⟩
    have second_taken := takeSecond?_append second_layout offset_layout.atOffset
    have offset_read := readOffset?_eq_some_iff.mpr offset_layout
    simp [readTime?, hour_digits.takeDigits?_append, takeSign?, minute_digits.takeDigits?_append,
      second_taken, offset_read]

theorem readTimePart?_eq_some_iff {s : List Char} {time : Option IsoTime} :
    readTimePart? s = some time ↔ TimePartLayout time s := by
  have of_separator {separator : Char} {rest : List Char} (separator_mem : separator ∈ ['T', ' ']) :
      (readTime? rest).map some = some time ↔ TimePartLayout time (separator :: rest) := by
    rw [Option.map_eq_some_iff]
    constructor
    · rintro ⟨t, read, rfl⟩
      exact .time separator_mem (readTime?_eq_some_iff.mp read)
    · intro layout
      cases layout with
      | time _ time_layout => exact ⟨_, readTime?_eq_some_iff.mpr time_layout, rfl⟩
  unfold readTimePart?
  split
  · constructor
    · intro read
      obtain rfl := Option.some.inj read
      exact .absent
    · intro layout
      cases layout with
      | absent => rfl
  · exact of_separator (by decide)
  · exact of_separator (by decide)
  · rename_i not_nil not_t not_space
    simp only [reduceCtorEq, false_iff]
    intro layout
    cases layout with
    | absent => exact not_nil rfl
    | time separator_mem =>
        simp only [List.mem_cons, List.not_mem_nil, or_false] at separator_mem
        rcases separator_mem with rfl | rfl
        · exact not_t _ rfl
        · exact not_space _ rfl

/-- The reader finds the parts that a text is laid out as. -/
theorem ofChars?_eq_some_iff {s : List Char} {d : IsoDatetime} :
    ofChars? s = some d ↔ Layout d s := by
  constructor
  · intro read
    obtain ⟨⟨year, after_year⟩, year_taken, read⟩ := Option.bind_eq_some_iff.mp read
    obtain ⟨after_first, first_hyphen, read⟩ := Option.bind_eq_some_iff.mp read
    obtain ⟨⟨month, after_month⟩, month_taken, read⟩ := Option.bind_eq_some_iff.mp read
    obtain ⟨after_second, second_hyphen, read⟩ := Option.bind_eq_some_iff.mp read
    obtain ⟨⟨day, after_day⟩, day_taken, read⟩ := Option.bind_eq_some_iff.mp read
    obtain ⟨time, time_read, read⟩ := Option.bind_eq_some_iff.mp read
    obtain rfl := Option.some.inj read
    obtain ⟨rfl, year_digits⟩ := takeDigits?_eq_some_iff.mp year_taken
    obtain rfl := takeSign?_eq_some_iff.mp first_hyphen
    obtain ⟨rfl, month_digits⟩ := takeDigits?_eq_some_iff.mp month_taken
    obtain rfl := takeSign?_eq_some_iff.mp second_hyphen
    obtain ⟨rfl, day_digits⟩ := takeDigits?_eq_some_iff.mp day_taken
    exact .date year_digits month_digits day_digits (readTimePart?_eq_some_iff.mp time_read)
  · rintro ⟨year_digits, month_digits, day_digits, time_part⟩
    have time_read := readTimePart?_eq_some_iff.mpr time_part
    simp [ofChars?, year_digits.takeDigits?_append, takeSign?, month_digits.takeDigits?_append,
      day_digits.takeDigits?_append, time_read]

/-- No text is laid out in two ways. -/
theorem Layout.unique {s : List Char} {d e : IsoDatetime} (layout : Layout d s)
    (other : Layout e s) : d = e :=
  Option.some.inj ((ofChars?_eq_some_iff.mpr layout).symm.trans (ofChars?_eq_some_iff.mpr other))

end RequestParams.Grammar.IsoDatetime
