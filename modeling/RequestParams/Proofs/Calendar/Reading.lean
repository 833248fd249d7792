import Mathlib.Data.List.TakeWhile
import RequestParams.Calendar.Reading
import RequestParams.Proofs.Text.Digits

/-!
# The ranges of the fields that are read

Whatever the format, every field that a text has set is within its range: a month is one of twelve,
a day one of thirty-one, a minute one of sixty, and so on. Reading one item keeps all fields in
their ranges, hence so does reading all of them.
-/

namespace RequestParams.Calendar

open Text

/-- A field that could be set has been set to the value. -/
theorem eq_of_agree? {α β : Type} [DecidableEq α] {old : Option α} {new : α} {put : Option α → β}
    {result : β} (done : (agree? old new).map put = some result) : result = put (some new) := by
  unfold agree? at done
  split at done
  · exact (Option.some.inj done).symm
  · split at done
    · exact (Option.some.inj done).symm
    · cases done

/-! ## Numbers -/

theorem digitsValue_take_lt {run : List Char} (digit : ∀ c ∈ run, isDigit c = true) (width : Nat) :
    digitsValue (run.take width) < Nat.pow 10 width :=
  calc
    digitsValue (run.take width) < Nat.pow 10 (run.take width).length :=
      digitsValue_lt fun c c_mem => digit c (List.mem_of_mem_take c_mem)
    _ ≤ Nat.pow 10 width := Nat.pow_le_pow_right (by omega) (List.length_take_le width run)

theorem takeNumber?_lt {width n : Nat} {s rest : List Char}
    (taken : takeNumber? (some width) s = some (n, rest)) : n < Nat.pow 10 width := by
  obtain ⟨-, taken⟩ := Option.ite_none_left_eq_some.mp taken
  obtain ⟨rfl, -⟩ := Prod.mk.inj (Option.some.inj taken)
  exact digitsValue_take_lt (fun c c_mem => List.mem_takeWhile_imp c_mem) width

/-- A number of nanoseconds, padded to nine digits, is less than a second. -/
theorem mul_pow_lt {n count : Nat} (count_le : count ≤ 9) (n_lt : n < Nat.pow 10 count) :
    n * Nat.pow 10 (9 - count) < 1000000000 := by
  have padded : Nat.pow 10 count * Nat.pow 10 (9 - count) = Nat.pow 10 9 := by
    have split_at := Nat.pow_add 10 count (9 - count)
    rw [Nat.add_sub_cancel' count_le] at split_at
    exact split_at.symm
  calc
    n * Nat.pow 10 (9 - count) < Nat.pow 10 count * Nat.pow 10 (9 - count) :=
      Nat.mul_lt_mul_of_pos_right n_lt (Nat.pow_pos (by omega))
    _ = 1000000000 := padded

theorem takeFraction?_lt {n : Nat} {s rest : List Char}
    (taken : takeFraction? s = some (n, rest)) : n < 1000000000 := by
  obtain ⟨-, taken⟩ := Option.ite_none_left_eq_some.mp taken
  obtain ⟨rfl, -⟩ := Prod.mk.inj (Option.some.inj taken)
  have digit : ∀ c ∈ (s.takeWhile isDigit).take 9, isDigit c = true := fun c c_mem =>
    List.mem_takeWhile_imp (List.mem_of_mem_take c_mem)
  exact mul_pow_lt (List.length_take_le 9 _) (digitsValue_lt digit)

theorem takeFractionDigits?_lt {count n : Nat} {s rest : List Char} (count_le : count ≤ 9)
    (taken : takeFractionDigits? count s = some (n, rest)) : n < 1000000000 := by
  obtain ⟨⟨length_eq, digit⟩, taken⟩ := Option.ite_none_right_eq_some.mp taken
  obtain ⟨rfl, -⟩ := Prod.mk.inj (Option.some.inj taken)
  have below := digitsValue_lt (List.all_eq_true.mp digit)
  rw [length_eq] at below
  exact mul_pow_lt count_le below

/-! ## The fields -/

namespace Fields

/-- The fields that have been set are in their ranges. The years that are written in full, the
weekday, the timestamp and the offset may have any value. -/
structure InRange (fields : Fields) : Prop where
  century : ∀ n ∈ fields.century, 0 ≤ n
  yearOfCentury : ∀ n ∈ fields.yearOfCentury, 0 ≤ n ∧ n ≤ 99
  isoYearOfCentury : ∀ n ∈ fields.isoYearOfCentury, 0 ≤ n ∧ n ≤ 99
  quarter : ∀ n ∈ fields.quarter, 1 ≤ n ∧ n ≤ 4
  month : ∀ n ∈ fields.month, 1 ≤ n ∧ n ≤ 12
  day : ∀ n ∈ fields.day, 1 ≤ n ∧ n ≤ 31
  ordinal : ∀ n ∈ fields.ordinal, 1 ≤ n ∧ n ≤ 366
  weekFromSunday : ∀ n ∈ fields.weekFromSunday, n ≤ 53
  weekFromMonday : ∀ n ∈ fields.weekFromMonday, n ≤ 53
  isoWeek : ∀ n ∈ fields.isoWeek, 1 ≤ n ∧ n ≤ 53
  half : ∀ n ∈ fields.half, n ≤ 1
  hourOfHalf : ∀ n ∈ fields.hourOfHalf, n ≤ 11
  minute : ∀ n ∈ fields.minute, n ≤ 59
  second : ∀ n ∈ fields.second, n ≤ 60
  nanosecond : ∀ n ∈ fields.nanosecond, n < 1000000000

variable {fields set : Fields} {n : Nat}

theorem inRange_empty : InRange {} := by
  constructor <;> exact fun n n_mem => nomatch n_mem

theorem InRange.setWeekday? (inRange : fields.InRange) {day : Weekday}
    (done : fields.setWeekday? day = some set) : set.InRange := by
  obtain rfl := eq_of_agree? done
  exact { inRange with }

theorem InRange.setOffset? (inRange : fields.InRange) {seconds : Int}
    (done : fields.setOffset? seconds = some set) : set.InRange := by
  obtain rfl := eq_of_agree? done
  exact { inRange with }

theorem InRange.setMonth? (inRange : fields.InRange) (done : fields.setMonth? n = some set) :
    set.InRange := by
  obtain ⟨within, done⟩ := Option.ite_none_right_eq_some.mp done
  obtain rfl := eq_of_agree? done
  exact { inRange with month := by simpa using within }

theorem InRange.setHalf? (inRange : fields.InRange) (n_le : n ≤ 1)
    (done : fields.setHalf? n = some set) : set.InRange := by
  obtain rfl := eq_of_agree? done
  exact { inRange with half := by simpa using n_le }

theorem InRange.setHourOfHalf? (inRange : fields.InRange) (n_le : n ≤ 11)
    (done : fields.setHourOfHalf? n = some set) : set.InRange := by
  obtain rfl := eq_of_agree? done
  exact { inRange with hourOfHalf := by simpa using n_le }

theorem InRange.setHour? (inRange : fields.InRange) (done : fields.setHour? n = some set) :
    set.InRange := by
  obtain ⟨n_lt, done⟩ := Option.ite_none_right_eq_some.mp done
  obtain ⟨halved, half_done, hour_done⟩ := Option.bind_eq_some_iff.mp done
  have halved_inRange := inRange.setHalf? (by omega) half_done
  exact halved_inRange.setHourOfHalf? (by omega) hour_done

theorem InRange.setNanosecond? (inRange : fields.InRange) (n_lt : n < 1000000000)
    (done : fields.setNanosecond? n = some set) : set.InRange := by
  obtain rfl := eq_of_agree? done
  exact { inRange with nanosecond := by simpa using n_lt }

theorem InRange.setYear? (inRange : fields.InRange) {field : NumberField} {n : Int}
    (done : field.setYear? fields n = some set) : set.InRange := by
  cases field
  case year | isoYear =>
    obtain ⟨year, -, done⟩ := Option.bind_eq_some_iff.mp done
    obtain ⟨value, -, done⟩ := Option.bind_eq_some_iff.mp done
    obtain rfl := Option.some.inj done
    exact { inRange with }
  all_goals cases done

/-- A number that is no longer than its field is wide is set only if it is in the field's range. -/
theorem InRange.set? (inRange : fields.InRange) {field : NumberField}
    (n_lt : ∀ width ∈ field.width?, n < Nat.pow 10 width)
    (done : field.set? fields n = some set) : set.InRange := by
  cases field
  case year =>
    have year_done : NumberField.setYear? fields n .year = some set := done
    exact inRange.setYear? year_done
  case isoYear =>
    have year_done : NumberField.setYear? fields n .isoYear = some set := done
    exact inRange.setYear? year_done
  case month => exact inRange.setMonth? done
  case hour => exact inRange.setHour? done
  case nanosecond => exact inRange.setNanosecond? (n_lt 9 rfl) done
  case weekdayFromSunday | weekdayFromMonday =>
    exact inRange.setWeekday? (Option.ite_none_right_eq_some.mp done).2
  case hourOfHalf =>
    exact inRange.setHourOfHalf? (by omega) (Option.ite_none_right_eq_some.mp done).2
  case century =>
    obtain rfl := eq_of_agree? done
    exact { inRange with century := by simp }
  case timestamp =>
    obtain rfl := eq_of_agree? done
    exact { inRange with }
  case yearOfCentury =>
    obtain rfl := eq_of_agree? done
    have below : n < 100 := n_lt 2 rfl
    exact { inRange with yearOfCentury := by simp; omega }
  case isoYearOfCentury =>
    obtain rfl := eq_of_agree? done
    have below : n < 100 := n_lt 2 rfl
    exact { inRange with isoYearOfCentury := by simp; omega }
  all_goals
    obtain ⟨within, done⟩ := Option.ite_none_right_eq_some.mp done
    obtain rfl := eq_of_agree? done
  case quarter => exact { inRange with quarter := by simpa using within }
  case day => exact { inRange with day := by simpa using within }
  case weekFromSunday => exact { inRange with weekFromSunday := by simpa using within }
  case weekFromMonday => exact { inRange with weekFromMonday := by simpa using within }
  case isoWeek => exact { inRange with isoWeek := by simpa using within }
  case ordinal => exact { inRange with ordinal := by simpa using within }
  case minute => exact { inRange with minute := by simpa using within }
  case second => exact { inRange with second := by simpa using within }

end Fields

/-! ## The items of a format -/

namespace Item

/-- A fraction has no more than the nine digits of the nanoseconds. -/
def IsRegular : Item → Prop
  | fractionDigits _ digits => digits ≤ 9
  | _ => True

theorem isRegular_of_ofLetter? {letter : Char} {items : List Item}
    (known : ofLetter? letter = some items) : ∀ item ∈ items, item.IsRegular := by
  unfold ofLetter? at known
  split at known
  all_goals cases known
  all_goals simp [IsRegular, clock, isoDate, slashDate, spaced, sign]

theorem fractionLength?_le {c : Char} {digits : Nat} (known : fractionLength? c = some digits) :
    digits ≤ 9 := by
  unfold fractionLength? at known
  split at known
  all_goals cases known
  all_goals decide

theorem isRegular_of_padded? {letter : Char} {items : List Item}
    (padded : padded? (ofLetter? letter) = some items) : ∀ item ∈ items, item.IsRegular := by
  unfold padded? at padded
  split at padded
  · obtain rfl := Option.some.inj padded
    simp [IsRegular]
  · cases padded

theorem isRegular_of_specifier {text : List Char} {items : List Item}
    (specifier : Specifier text items) : ∀ item ∈ items, item.IsRegular := by
  cases specifier with
  | letter known => exact isRegular_of_ofLetter? known
  | padded padding_mem known => exact isRegular_of_padded? known
  | pointAndDigits known | digits known => simpa [IsRegular] using fractionLength?_le known
  | offset | lenientOffset | fraction => simp [IsRegular]

theorem isRegular_of_ofChars? {s : List Char} {items : List Item}
    (cut : ofChars? s = some items) : ∀ item ∈ items, item.IsRegular := by
  cases s with
  | nil =>
      rw [ofChars?] at cut
      obtain rfl := Option.some.inj cut
      exact List.forall_mem_nil _
  | cons c rest =>
      rw [ofChars?] at cut
      split at cut
      · split at cut
        · cases cut
        · rename_i taken
          obtain ⟨_, after_cut, rfl⟩ := Option.map_eq_some_iff.mp cut
          have shorter := length_of_takeSpecifier? taken
          obtain ⟨_, -, specifier⟩ := exists_specifier_of_takeSpecifier? taken
          exact List.forall_mem_append.mpr
            ⟨isRegular_of_specifier specifier, isRegular_of_ofChars? after_cut⟩
      · obtain ⟨_, rest_cut, rfl⟩ := Option.map_eq_some_iff.mp cut
        refine List.forall_mem_cons.mpr ⟨?_, isRegular_of_ofChars? rest_cut⟩
        split <;> simp [IsRegular, sign]
termination_by s.length

variable {fields set : Fields} {s rest : List Char}

/-- An item that takes something off the front and sets a field to it has done both. -/
theorem exists_of_take_then_set {α : Type} {taken? : Option (α × List Char)}
    (set? : α → Option Fields)
    (done : (do let (a, rest) ← taken?; return (← set? a, rest)) = some (set, rest)) :
    ∃ a, taken? = some (a, rest) ∧ set? a = some set := by
  obtain ⟨⟨a, after⟩, taken, done⟩ := Option.bind_eq_some_iff.mp done
  obtain ⟨_, set_done, done⟩ := Option.bind_eq_some_iff.mp done
  obtain ⟨rfl, rfl⟩ := Prod.mk.inj (Option.some.inj done)
  exact ⟨a, taken, set_done⟩

/-- One item of a format keeps the fields in their ranges. -/
theorem inRange_of_take? {item : Item} (regular : item.IsRegular) (inRange : fields.InRange)
    (taken : item.take? fields s = some (set, rest)) : set.InRange := by
  cases item with
  | literal text =>
      obtain ⟨_, -, pair_eq⟩ := Option.map_eq_some_iff.mp taken
      obtain ⟨rfl, -⟩ := Prod.mk.inj pair_eq
      exact inRange
  | blanks | zoneName =>
      obtain ⟨rfl, -⟩ := Prod.mk.inj (Option.some.inj taken)
      exact inRange
  | dateEnd =>
      simp only [take?] at taken
      split at taken
      all_goals cases taken
      all_goals exact inRange
  | number field =>
      cases field
      case year | isoYear =>
        obtain ⟨n, -, done⟩ := exists_of_take_then_set (NumberField.setYear? fields · _) taken
        exact inRange.setYear? done
      all_goals
        obtain ⟨n, number_taken, done⟩ :=
          exists_of_take_then_set (NumberField.set? fields · _) taken
        refine inRange.set? (fun width width_eq => ?_) done
        rw [Option.mem_def.mp width_eq] at number_taken
        exact takeNumber?_lt number_taken
  | monthName long =>
      obtain ⟨index, -, done⟩ :=
        exists_of_take_then_set (fun index => fields.setMonth? (index + 1)) taken
      exact inRange.setMonth? done
  | weekdayName long =>
      obtain ⟨index, -, done⟩ :=
        exists_of_take_then_set (fun index => fields.setWeekday? (.ofIndex index)) taken
      exact inRange.setWeekday? done
  | half =>
      simp only [take?] at taken
      split at taken
      · obtain ⟨_, done, pair_eq⟩ := Option.map_eq_some_iff.mp taken
        obtain ⟨rfl, -⟩ := Prod.mk.inj pair_eq
        exact inRange.setHalf? (Nat.zero_le 1) done
      · obtain ⟨_, done, pair_eq⟩ := Option.map_eq_some_iff.mp taken
        obtain ⟨rfl, -⟩ := Prod.mk.inj pair_eq
        exact inRange.setHalf? (Nat.le_refl 1) done
      · cases taken
  | fraction =>
      simp only [take?] at taken
      split at taken
      · obtain ⟨n, fraction_taken, done⟩ := exists_of_take_then_set fields.setNanosecond? taken
        exact inRange.setNanosecond? (takeFraction?_lt fraction_taken) done
      · obtain ⟨rfl, -⟩ := Prod.mk.inj (Option.some.inj taken)
        exact inRange
  | fractionDigits point digits =>
      cases point with
      | false =>
          obtain ⟨n, digits_taken, done⟩ :=
            exists_of_take_then_set fields.setNanosecond? taken
          exact inRange.setNanosecond? (takeFractionDigits?_lt regular digits_taken) done
      | true =>
          simp only [take?] at taken
          split at taken
          · obtain ⟨n, digits_taken, done⟩ :=
              exists_of_take_then_set fields.setNanosecond? taken
            exact inRange.setNanosecond? (takeFractionDigits?_lt regular digits_taken) done
          · obtain ⟨rfl, -⟩ := Prod.mk.inj (Option.some.inj taken)
            exact inRange
  | offset lenient =>
      obtain ⟨seconds, -, done⟩ := exists_of_take_then_set fields.setOffset? taken
      exact inRange.setOffset? done
  | zulu =>
      simp only [take?] at taken
      split at taken
      · obtain ⟨_, done, taken⟩ := Option.bind_eq_some_iff.mp taken
        obtain ⟨rfl, -⟩ := Prod.mk.inj (Option.some.inj taken)
        exact inRange.setOffset? done
      · obtain ⟨seconds, -, done⟩ := exists_of_take_then_set fields.setOffset? taken
        exact inRange.setOffset? done

end Item

theorem inRange_of_readItems? {fields set : Fields} {s : List Char} {items : List Item}
    (regular : ∀ item ∈ items, item.IsRegular) (inRange : fields.InRange)
    (read : readItems? fields s items = some set) : set.InRange := by
  induction items generalizing fields s with
  | nil =>
      obtain ⟨-, set_eq⟩ := Option.ite_none_right_eq_some.mp read
      obtain rfl := Option.some.inj set_eq
      exact inRange
  | cons item items induction =>
      obtain ⟨⟨between, rest⟩, taken, read⟩ := Option.bind_eq_some_iff.mp read
      have item_regular := regular item List.mem_cons_self
      exact induction (fun other other_mem => regular other (List.mem_cons_of_mem item other_mem))
        (Item.inRange_of_take? item_regular inRange taken) read

/-- The fields that a text sets through a format. -/
def Fields.ofText? (format s : String) : Option Fields :=
  (Item.ofChars? format.toList).bind (readItems? {} s.toList)

/-- Whatever the format and the text, the fields that are set are in their ranges. -/
theorem Fields.inRange_of_ofText? {format s : String} {fields : Fields}
    (read : ofText? format s = some fields) : fields.InRange := by
  obtain ⟨items, cut, read⟩ := Option.bind_eq_some_iff.mp read
  exact inRange_of_readItems? (Item.isRegular_of_ofChars? cut) inRange_empty read

end RequestParams.Calendar
