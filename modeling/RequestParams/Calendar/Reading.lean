import RequestParams.Calendar.Fields
import RequestParams.Calendar.Format
import RequestParams.Text.Digits

/-!
# Reading dates and times

Each item of a format takes a part off the front of a text and sets fields. Numbers may have blanks
in front and fewer digits than their width. Names are read in any case.
-/

namespace RequestParams.Calendar

open Text

/-- Takes at most `width` digits off the front, at least one; the number must fit in 63 bits. -/
def takeNumber? (width : Option Nat) (s : List Char) : Option (Nat × List Char) :=
  let run := s.takeWhile isDigit
  let digits := match width with
    | some width => run.take width
    | none => run
  if digits.isEmpty || Int64.maxValue.toInt < digitsValue digits then none
  else some (digitsValue digits, s.drop digits.length)

/-- Takes a year: four digits, or a sign and any number of digits. -/
def takeYear? (s : List Char) : Option (Int × List Char) :=
  match s with
  | '-' :: rest => (takeNumber? none rest).map fun (n, rest) => (-n, rest)
  | '+' :: rest => (takeNumber? none rest).map fun (n, rest) => (n, rest)
  | s => (takeNumber? (some 4) s).map fun (n, rest) => (n, rest)

/-- A year that fits in 32 signed bits. -/
def year32? (n : Int) : Option Int :=
  if Int32.minValue.toInt ≤ n ∧ n ≤ Int32.maxValue.toInt then some n else none

namespace NumberField

/-- The greatest number of digits, none for a field without limit. -/
def width? : NumberField → Option Nat
  | year | isoYear => some 4
  | quarter | weekdayFromSunday | weekdayFromMonday => some 1
  | ordinal => some 3
  | nanosecond => some 9
  | timestamp => none
  | _ => some 2

/-- Sets a year field. -/
def setYear? (fields : Fields) (n : Int) : NumberField → Option Fields
  | year => do
    let value ← agree? fields.year (← year32? n)
    return { fields with year := value }
  | isoYear => do
    let value ← agree? fields.isoYear (← year32? n)
    return { fields with isoYear := value }
  | _ => none

/-- Sets a field to a number in its range. -/
def set? (fields : Fields) (n : Nat) : NumberField → Option Fields
  | year => setYear? fields n year
  | isoYear => setYear? fields n isoYear
  | century => (agree? fields.century n).map fun v => { fields with century := v }
  | yearOfCentury =>
    (agree? fields.yearOfCentury n).map fun v => { fields with yearOfCentury := v }
  | isoYearOfCentury =>
    (agree? fields.isoYearOfCentury n).map fun v => { fields with isoYearOfCentury := v }
  | quarter =>
    if 1 ≤ n ∧ n ≤ 4 then (agree? fields.quarter n).map fun v => { fields with quarter := v }
    else none
  | month => fields.setMonth? n
  | day =>
    if 1 ≤ n ∧ n ≤ 31 then (agree? fields.day n).map fun v => { fields with day := v } else none
  | weekFromSunday =>
    if n ≤ 53 then
      (agree? fields.weekFromSunday n).map fun v => { fields with weekFromSunday := v }
    else none
  | weekFromMonday =>
    if n ≤ 53 then
      (agree? fields.weekFromMonday n).map fun v => { fields with weekFromMonday := v }
    else none
  | isoWeek =>
    if 1 ≤ n ∧ n ≤ 53 then (agree? fields.isoWeek n).map fun v => { fields with isoWeek := v }
    else none
  | weekdayFromSunday => if n ≤ 6 then fields.setWeekday? (.ofIndex (n + 6)) else none
  | weekdayFromMonday =>
    if 1 ≤ n ∧ n ≤ 7 then fields.setWeekday? (.ofIndex (n - 1)) else none
  | ordinal =>
    if 1 ≤ n ∧ n ≤ 366 then (agree? fields.ordinal n).map fun v => { fields with ordinal := v }
    else none
  | hour => fields.setHour? n
  | hourOfHalf => if 1 ≤ n ∧ n ≤ 12 then fields.setHourOfHalf? (n % 12) else none
  | minute =>
    if n ≤ 59 then (agree? fields.minute n).map fun v => { fields with minute := v } else none
  | second =>
    if n ≤ 60 then (agree? fields.second n).map fun v => { fields with second := v } else none
  | nanosecond => fields.setNanosecond? n
  | timestamp => (agree? fields.timestamp n).map fun v => { fields with timestamp := v }

end NumberField

/-- Takes a word off the front in any case. -/
def takeWord? (word s : List Char) : Option (List Char) :=
  if (s.take word.length).map Char.toLower = word then some (s.drop word.length) else none

/-- The first three letters of the months and what follows them. -/
def monthNames : List (List Char × List Char) :=
  [("jan", "uary"), ("feb", "ruary"), ("mar", "ch"), ("apr", "il"), ("may", ""), ("jun", "e"),
   ("jul", "y"), ("aug", "ust"), ("sep", "tember"), ("oct", "ober"), ("nov", "ember"),
   ("dec", "ember")].map fun (short, more) => (short.toList, more.toList)

/-- The first three letters of the weekdays and what follows them, Monday first. -/
def weekdayNames : List (List Char × List Char) :=
  [("mon", "day"), ("tue", "sday"), ("wed", "nesday"), ("thu", "rsday"), ("fri", "day"),
   ("sat", "urday"), ("sun", "day")].map fun (short, more) => (short.toList, more.toList)

/-- Takes a name off the front: its index and the rest. A long name may be cut to three letters. -/
def takeName? (names : List (List Char × List Char)) (long : Bool) (s : List Char) :
    Option (Nat × List Char) :=
  (names.zipIdx.findSome? fun (name, index) =>
    (takeWord? name.1 s).map fun rest => (index, name.2, rest)).map fun (index, more, rest) =>
      (index, if long then (takeWord? more rest).getD rest else rest)

/-- Takes a fraction of any length: nanoseconds from the first nine digits. -/
def takeFraction? (s : List Char) : Option (Nat × List Char) :=
  let digits := s.takeWhile isDigit
  let kept := digits.take 9
  if digits.isEmpty then none
  else some (digitsValue kept * Nat.pow 10 (9 - kept.length), s.dropWhile isDigit)

/-- Takes a fraction of exactly so many digits. -/
def takeFractionDigits? (count : Nat) (s : List Char) : Option (Nat × List Char) :=
  let digits := s.take count
  if digits.length = count ∧ digits.all isDigit then
    some (digitsValue digits * Nat.pow 10 (9 - count), s.drop count)
  else none

/-- Takes two digits. -/
def takePair? (s : List Char) : Option (Nat × List Char) :=
  match s with
  | a :: b :: rest =>
    if isDigit a && isDigit b then some (digitsValue [a, b], rest) else none
  | _ => none

/-- Takes a sign: whether it is a minus, of which there are two. -/
def takeSign? (s : List Char) : Option (Bool × List Char) :=
  match s with
  | '+' :: rest => some (false, rest)
  | '-' :: rest => some (true, rest)
  | '−' :: rest => some (true, rest)
  | _ => none

/-- Takes a distance to universal time in seconds: a sign, hours, and minutes after any colons and
blanks. A `Z` stands for no distance where it is allowed, and minutes may be missing at the end of
the text where that is. -/
def takeOffset? (zulu missingMinutes : Bool) (s : List Char) : Option (Int × List Char) :=
  match zulu, s with
  | true, 'Z' :: rest | true, 'z' :: rest => some (0, rest)
  | _, s => do
    let (negative, s) ← takeSign? s
    let (hours, s) ← takePair? s
    let s := s.dropWhile fun c => c == ':' || isBlank c
    let (minutes, s) ← if missingMinutes && s.isEmpty then some (0, []) else takePair? s
    if 60 ≤ minutes then none
    else
      let seconds : Int := hours * 3600 + minutes * 60
      return (if negative then -seconds else seconds, s)

namespace Item

/-- Takes an item off the front of a text and sets its fields. -/
def take? (fields : Fields) (s : List Char) : Item → Option (Fields × List Char)
  | literal text => (text.isPrefixOf? s).map fun rest => (fields, rest)
  | blanks => some (fields, trimLeft s)
  | number field => do
    match field with
    | .year | .isoYear =>
      let (n, rest) ← takeYear? (trimLeft s)
      return (← field.setYear? fields n, rest)
    | _ =>
      let (n, rest) ← takeNumber? field.width? (trimLeft s)
      return (← field.set? fields n, rest)
  | monthName long => do
    let (index, rest) ← takeName? monthNames long s
    return (← fields.setMonth? (index + 1), rest)
  | weekdayName long => do
    let (index, rest) ← takeName? weekdayNames long s
    return (← fields.setWeekday? (.ofIndex index), rest)
  | half =>
    match takeWord? ['a', 'm'] s, takeWord? ['p', 'm'] s with
    | some rest, _ => (fields.setHalf? 0).map (·, rest)
    | _, some rest => (fields.setHalf? 1).map (·, rest)
    | none, none => none
  | fraction =>
    match s with
    | '.' :: rest => do
      let (n, rest) ← takeFraction? rest
      return (← fields.setNanosecond? n, rest)
    | s => some (fields, s)
  | fractionDigits true digits =>
    match s with
    | '.' :: rest => do
      let (n, rest) ← takeFractionDigits? digits rest
      return (← fields.setNanosecond? n, rest)
    | s => some (fields, s)
  | fractionDigits false digits => do
    let (n, rest) ← takeFractionDigits? digits s
    return (← fields.setNanosecond? n, rest)
  | zoneName => some (fields, s.dropWhile fun c => !isBlank c)
  | offset lenient => do
    let (seconds, rest) ← takeOffset? lenient lenient (trimLeft s)
    return (← fields.setOffset? seconds, rest)
  | dateEnd =>
    match s with
    | 'T' :: rest | 't' :: rest | ' ' :: rest => some (fields, rest)
    | _ => none
  | zulu => do
    let s := trimLeft s
    match takeWord? ['u', 't', 'c'] s with
    | some rest => return (← fields.setOffset? 0, rest)
    | none =>
      let (seconds, rest) ← takeOffset? true false s
      return (← fields.setOffset? seconds, rest)

end Item

/-- The fields of a text that the items read from its start to its end. -/
def readItems? (fields : Fields) (s : List Char) : List Item → Option Fields
  | [] => if s.isEmpty then some fields else none
  | item :: rest => (item.take? fields s).bind fun (fields, s) => readItems? fields s rest

end RequestParams.Calendar
