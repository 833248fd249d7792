import RequestParams.Calendar.Date
import RequestParams.Text.Digits

/-!
# ISO 8601 dates and times

A date, optionally followed by a time of day with an optional distance to universal time. The shape
admits the decimal digits of all scripts; only ASCII digits have a value. Digits without a value are
refused in the date, the hour and the minute, and stand for nothing elsewhere.
-/

namespace RequestParams.Grammar

open Text

/-- A time of day in its parts as written. -/
structure IsoTime where
  /-- Two digits. -/
  hour : List Char
  /-- Two digits. -/
  minute : List Char
  /-- Two digits, if there are seconds. -/
  second : Option (List Char)
  /-- Hours and, if given, minutes of a distance to universal time in digits. -/
  offset : Option (List Char × Option (List Char))
deriving DecidableEq, Repr

/-- A date with an optional time in its parts as written. -/
structure IsoDatetime where
  /-- Four digits. -/
  year : List Char
  /-- Two digits. -/
  month : List Char
  /-- Two digits. -/
  day : List Char
  /-- The time of day. -/
  time : Option IsoTime
deriving DecidableEq, Repr

namespace IsoDatetime

/-- Takes a number of decimal digits off the front. -/
def takeDigits? (count : Nat) (s : List Char) : Option (List Char × List Char) :=
  let digits := s.take count
  if digits.length = count ∧ digits.all isDecimalDigit then some (digits, s.drop count) else none

/-- Takes a sign off the front. -/
def takeSign? (sign : Char) (s : List Char) : Option (List Char) :=
  match s with
  | c :: rest => if c = sign then some rest else none
  | [] => none

/-- Takes a point and one to six digits, if a point is next. -/
def takeFraction? (s : List Char) : Option (List Char) :=
  match s with
  | '.' :: rest =>
    let count := (rest.takeWhile isDecimalDigit).length
    if 1 ≤ count ∧ count ≤ 6 then some (rest.drop count) else none
  | rest => some rest

/-- Takes a colon, seconds and an optional fraction, if a colon is next. -/
def takeSecond? (s : List Char) : Option (Option (List Char) × List Char) :=
  match s with
  | ':' :: rest => do
    let (second, rest) ← takeDigits? 2 rest
    return (some second, ← takeFraction? rest)
  | rest => some (none, rest)

/-- Reads the minutes of a distance to universal time up to the end: two digits, after a colon or
not. -/
def readOffsetMinute? (s : List Char) : Option (List Char) := do
  let (minute, rest) ← takeDigits? 2 (match s with
    | ':' :: rest => rest
    | rest => rest)
  if rest.isEmpty then some minute else none

/-- Reads hours and optional minutes of a distance to universal time up to the end. -/
def readOffsetDigits? (s : List Char) : Option (List Char × Option (List Char)) := do
  let (hour, rest) ← takeDigits? 2 s
  if rest.isEmpty then return (hour, none)
  else return (hour, some (← readOffsetMinute? rest))

/-- Reads an optional distance to universal time up to the end. -/
def readOffset? (s : List Char) : Option (Option (List Char × Option (List Char))) :=
  match s with
  | [] => some none
  | ['Z'] => some none
  | '+' :: rest | '-' :: rest => (readOffsetDigits? rest).map some
  | _ => none

/-- Reads a time of day up to the end. -/
def readTime? (s : List Char) : Option IsoTime := do
  let (hour, s) ← takeDigits? 2 s
  let s ← takeSign? ':' s
  let (minute, s) ← takeDigits? 2 s
  let (second, s) ← takeSecond? s
  return ⟨hour, minute, second, ← readOffset? s⟩

/-- Reads an optional time of day after a `T` or a space. -/
def readTimePart? (s : List Char) : Option (Option IsoTime) :=
  match s with
  | [] => some none
  | 'T' :: rest | ' ' :: rest => (readTime? rest).map some
  | _ => none

/-- The parts of a text of the right shape. -/
def ofChars? (s : List Char) : Option IsoDatetime := do
  let (year, s) ← takeDigits? 4 s
  let s ← takeSign? '-' s
  let (month, s) ← takeDigits? 2 s
  let s ← takeSign? '-' s
  let (day, s) ← takeDigits? 2 s
  return ⟨year, month, day, ← readTimePart? s⟩

end IsoDatetime

namespace IsoTime

/-- Whether the offset, as far as it has a value, is below a day and an hour. -/
def hasValidOffset (t : IsoTime) : Bool :=
  match t.offset with
  | none => true
  | some (hour, minute) =>
    match natural? hour with
    | none => true
    | some h => h ≤ 23 && (minute.bind natural?).all (· ≤ 59)

/-- Whether the parts name a time of day. -/
def isValid (t : IsoTime) : Bool :=
  match natural? t.hour, natural? t.minute with
  | some h, some m =>
    h ≤ 23 && m ≤ 59 && ((t.second.bind natural?).getD 0) ≤ 59 && t.hasValidOffset
  | _, _ => false

end IsoTime

namespace IsoDatetime

/-- The date that the parts name. -/
def date? (d : IsoDatetime) : Option Calendar.Date := do
  Calendar.Date.ofMonthDay? (← natural? d.year) (← natural? d.month) (← natural? d.day)

/-- Whether the parts name a date and a time of day. -/
def isValid (d : IsoDatetime) : Bool := d.date?.isSome && d.time.all IsoTime.isValid

end IsoDatetime

/-- Whether a text is an ISO 8601 date or date and time. `Rule.accepts_regex_isoDatetimePattern` has
the texts that have parts as those of a pattern. -/
def isIsoDatetime (s : String) : Bool := (IsoDatetime.ofChars? s.toList).any IsoDatetime.isValid

end RequestParams.Grammar
