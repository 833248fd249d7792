import RequestParams.Text.Blank

/-!
# Formats of dates and times

A format is a text with specifiers: a percent sign and a letter, with at most one sign between them
that changes the padding. It is cut into items; a format with an unknown specifier has none.
-/

namespace RequestParams.Calendar

open Text

/-- Fields that are written as numbers. -/
inductive NumberField
  | year
  | century
  | yearOfCentury
  | isoYear
  | isoYearOfCentury
  | quarter
  | month
  | day
  | weekFromSunday
  | weekFromMonday
  | isoWeek
  /-- Zero for Sunday. -/
  | weekdayFromSunday
  /-- One for Monday. -/
  | weekdayFromMonday
  | ordinal
  | hour
  | hourOfHalf
  | minute
  | second
  | nanosecond
  | timestamp
deriving DecidableEq, Repr

/-- A part of a format. -/
inductive Item
  /-- A text that must stand as it is. -/
  | literal (s : List Char)
  /-- Any number of blanks, also none. -/
  | blanks
  /-- A number. -/
  | number (field : NumberField)
  /-- The name of a month; the long form reads both. -/
  | monthName (long : Bool)
  /-- The name of a weekday; the long form reads both. -/
  | weekdayName (long : Bool)
  /-- `am` or `pm`. -/
  | half
  /-- A point and a fraction of any length, or nothing. -/
  | fraction
  /-- A fraction with a number of digits; with a point, nothing will do as well. -/
  | fractionDigits (point : Bool) (digits : Nat)
  /-- The name of a time zone. -/
  | zoneName
  /-- A distance to universal time. The lenient form reads a `Z` and hours alone too. -/
  | offset (lenient : Bool)
  /-- The letter or the space between a date and a time. -/
  | dateEnd
  /-- A distance to universal time, a `Z` or `UTC`, after blanks. -/
  | zulu
deriving DecidableEq, Repr

namespace Item

/-- A literal of one character. -/
def sign (c : Char) : Item := literal [c]

/-- Year, month and day with hyphens. -/
def isoDate : List Item := [number .year, sign '-', number .month, sign '-', number .day]

/-- Hour, minute and second with colons. -/
def clock : List Item := [number .hour, sign ':', number .minute, sign ':', number .second]

/-- Month, day and year of the century with slashes. -/
def slashDate : List Item :=
  [number .month, sign '/', number .day, sign '/', number .yearOfCentury]

/-- The items with blanks allowed before each text that must stand as it is. -/
def spaced (items : List Item) : List Item :=
  items.flatMap fun
    | literal s => [blanks, literal s]
    | item => [item]

/-- The items of a specifier of one letter. -/
def ofLetter? (letter : Char) : Option (List Item) :=
  match letter with
  | 'A' => some [weekdayName true]
  | 'a' => some [weekdayName false]
  | 'B' => some [monthName true]
  | 'b' | 'h' => some [monthName false]
  | 'C' => some [number .century]
  | 'c' => some ([weekdayName false, blanks, monthName false, blanks, number .day, blanks] ++
      clock ++ [blanks, number .year])
  | 'D' | 'x' => some slashDate
  | 'd' | 'e' => some [number .day]
  | 'F' => some isoDate
  | 'f' => some [number .nanosecond]
  | 'G' => some [number .isoYear]
  | 'g' => some [number .isoYearOfCentury]
  | 'H' | 'k' => some [number .hour]
  | 'I' | 'l' => some [number .hourOfHalf]
  | 'j' => some [number .ordinal]
  | 'M' => some [number .minute]
  | 'm' => some [number .month]
  | 'n' | 't' => some [blanks]
  | 'P' | 'p' => some [half]
  | 'q' => some [number .quarter]
  | 'R' => some [number .hour, sign ':', number .minute]
  | 'r' => some ([number .hourOfHalf, sign ':', number .minute, sign ':', number .second, blanks,
      half])
  | 'S' => some [number .second]
  | 's' => some [number .timestamp]
  | 'T' | 'X' => some clock
  | 'U' => some [number .weekFromSunday]
  | 'u' => some [number .weekdayFromMonday]
  | 'V' => some [number .isoWeek]
  | 'v' => some [number .day, sign '-', monthName false, sign '-', number .year]
  | 'W' => some [number .weekFromMonday]
  | 'w' => some [number .weekdayFromSunday]
  | 'Y' => some [number .year]
  | 'y' => some [number .yearOfCentury]
  | 'Z' => some [zoneName]
  | 'z' => some [offset false]
  | '+' => some (spaced isoDate ++ [dateEnd] ++ spaced clock ++ [fraction, zulu])
  | '%' => some [sign '%']
  | _ => none

/-- The number of digits of a fraction that a sign stands for. -/
def fractionLength? (c : Char) : Option Nat :=
  match c with
  | '3' => some 3
  | '6' => some 6
  | '9' => some 9
  | _ => none

/-- Padding signs apply to specifiers of a single number only. -/
def padded? : Option (List Item) → Option (List Item)
  | some [number field] => some [number field]
  | _ => none

/-- The items of the specifier at the front of a text after the percent sign, and the rest. -/
def takeSpecifier? (s : List Char) : Option (List Item × List Char) :=
  match s with
  | '-' :: letter :: rest | '0' :: letter :: rest | '_' :: letter :: rest =>
    (padded? (ofLetter? letter)).map fun items => (items, rest)
  | '#' :: 'z' :: rest => some ([offset true], rest)
  | ':' :: ':' :: ':' :: 'z' :: rest => some ([offset false], rest)
  | ':' :: ':' :: 'z' :: rest => some ([offset false], rest)
  | ':' :: 'z' :: rest => some ([offset false], rest)
  | '.' :: 'f' :: rest => some ([fraction], rest)
  | '.' :: c :: 'f' :: rest =>
    (fractionLength? c).map fun digits => ([fractionDigits true digits], rest)
  | c :: rest =>
    match fractionLength? c, rest with
    | some digits, 'f' :: rest => some ([fractionDigits false digits], rest)
    | _, _ => (ofLetter? c).map fun items => (items, rest)
  | [] => none

/-- A specifier as it stands after the percent sign, and the items that it stands for. -/
inductive Specifier : List Char → List Item → Prop
  | letter {letter : Char} {items : List Item} (known : ofLetter? letter = some items) :
      Specifier [letter] items
  | padded {padding letter : Char} {items : List Item} (padding_mem : padding ∈ ['-', '0', '_'])
      (known : padded? (ofLetter? letter) = some items) : Specifier [padding, letter] items
  | offset {colons : List Char} (colons_mem : colons ∈ [[':'], [':', ':'], [':', ':', ':']]) :
      Specifier (colons ++ ['z']) [offset false]
  | lenientOffset : Specifier ['#', 'z'] [offset true]
  | fraction : Specifier ['.', 'f'] [fraction]
  | pointAndDigits {c : Char} {digits : Nat} (known : fractionLength? c = some digits) :
      Specifier ['.', c, 'f'] [fractionDigits true digits]
  | digits {c : Char} {digits : Nat} (known : fractionLength? c = some digits) :
      Specifier [c, 'f'] [fractionDigits false digits]

theorem Specifier.ne_nil {text : List Char} {items : List Item} (specifier : Specifier text items) :
    text ≠ [] := by
  cases specifier with
  | offset => exact List.append_ne_nil_of_right_ne_nil _ (List.cons_ne_nil _ _)
  | letter | padded | lenientOffset | fraction | pointAndDigits | digits =>
      exact List.cons_ne_nil _ _

/-- What is taken off the front of a text is a specifier. -/
theorem exists_specifier_of_takeSpecifier? {s rest : List Char} {items : List Item}
    (taken : takeSpecifier? s = some (items, rest)) :
    ∃ text, s = text ++ rest ∧ Specifier text items := by
  have of_padded {padding letter : Char} {after : List Char}
      (padding_mem : padding ∈ ['-', '0', '_'])
      (taken : (padded? (ofLetter? letter)).map (fun items => (items, after)) =
        some (items, rest)) :
      ∃ text, padding :: letter :: after = text ++ rest ∧ Specifier text items := by
    obtain ⟨_, known, pair_eq⟩ := Option.map_eq_some_iff.mp taken
    obtain ⟨rfl, rfl⟩ := Prod.mk.inj pair_eq
    exact ⟨[padding, letter], rfl, .padded padding_mem known⟩
  have of_colons {colons after : List Char}
      (colons_mem : colons ∈ [[':'], [':', ':'], [':', ':', ':']])
      (taken : some ([offset false], after) = some (items, rest)) :
      ∃ text, colons ++ 'z' :: after = text ++ rest ∧ Specifier text items := by
    obtain ⟨rfl, rfl⟩ := Prod.mk.inj (Option.some.inj taken)
    exact ⟨colons ++ ['z'], List.append_cons _ _ _, .offset colons_mem⟩
  unfold takeSpecifier? at taken
  -- The cases stand in the order of the reader: padding, offsets, fractions, and a letter at last.
  split at taken
  · exact of_padded (by decide) taken
  · exact of_padded (by decide) taken
  · exact of_padded (by decide) taken
  · obtain ⟨rfl, rfl⟩ := Prod.mk.inj (Option.some.inj taken)
    exact ⟨['#', 'z'], rfl, .lenientOffset⟩
  · exact of_colons (List.mem_cons_of_mem _ (List.mem_cons_of_mem _ List.mem_cons_self)) taken
  · exact of_colons (List.mem_cons_of_mem _ List.mem_cons_self) taken
  · exact of_colons List.mem_cons_self taken
  · obtain ⟨rfl, rfl⟩ := Prod.mk.inj (Option.some.inj taken)
    exact ⟨['.', 'f'], rfl, .fraction⟩
  · obtain ⟨digits, known, pair_eq⟩ := Option.map_eq_some_iff.mp taken
    obtain ⟨rfl, rfl⟩ := Prod.mk.inj pair_eq
    exact ⟨_, rfl, .pointAndDigits known⟩
  · split at taken
    · have known := ‹fractionLength? _ = some _›
      obtain ⟨rfl, rfl⟩ := Prod.mk.inj (Option.some.inj taken)
      exact ⟨_, rfl, .digits known⟩
    · obtain ⟨_, known, pair_eq⟩ := Option.map_eq_some_iff.mp taken
      obtain ⟨rfl, rfl⟩ := Prod.mk.inj pair_eq
      exact ⟨_, rfl, .letter known⟩
  · cases taken

theorem length_of_takeSpecifier? {s rest : List Char} {items : List Item}
    (taken : takeSpecifier? s = some (items, rest)) : rest.length < s.length := by
  obtain ⟨text, rfl, specifier⟩ := exists_specifier_of_takeSpecifier? taken
  have length_pos := List.length_pos_iff.mpr specifier.ne_nil
  rw [List.length_append]
  omega

/-- The items of a format: specifiers, runs of blanks, and characters that stand for themselves. -/
def ofChars? (s : List Char) : Option (List Item) :=
  match s with
  | [] => some []
  | c :: rest =>
    if c = '%' then
      match h : takeSpecifier? rest with
      | none => none
      | some (items, after) =>
        have : after.length < rest.length := length_of_takeSpecifier? h
        (ofChars? after).map (items ++ ·)
    else (ofChars? rest).map ((if isBlank c then blanks else sign c) :: ·)
termination_by s.length

end Item

end RequestParams.Calendar
