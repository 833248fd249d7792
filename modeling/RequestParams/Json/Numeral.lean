import RequestParams.Binary64.Rounding
import RequestParams.Json
import RequestParams.Text.Digits

/-!
# Numbers of JSON text

A `Numeral` is a number as written. Its value is found with 64-bit arithmetic: digits are gathered
while the significand fits in 64 bits, and a number with a fraction or an exponent is the
significand as a double, multiplied or divided by one power of ten. The result can therefore differ
from the nearest double in its last places.
-/

namespace RequestParams

/-- A number as written in JSON text. -/
structure Numeral where
  /-- Whether a minus sign stands in front. -/
  negative : Bool
  /-- The digits before the point. -/
  whole : List Char
  /-- The digits after the point, none without a point. -/
  fraction : List Char
  /-- Sign and digits of the exponent, if there is one. -/
  exponent : Option (Bool × List Char)
deriving DecidableEq, Repr

namespace Numeral

open Text

/-- Takes a run of one or more digits off the front. -/
def takeDigits? (s : List Char) : Option (List Char × List Char) :=
  match s.takeWhile isDigit with
  | [] => none
  | digits => some (digits, s.dropWhile isDigit)

/-- Takes digits before a point: a zero stands alone. -/
def takeWhole? (s : List Char) : Option (List Char × List Char) :=
  match takeDigits? s with
  | some ('0' :: _ :: _, _) => none
  | taken => taken

/-- Takes a point and its digits, if a point is next. -/
def takeFraction? (s : List Char) : Option (List Char × List Char) :=
  match s with
  | '.' :: rest => takeDigits? rest
  | rest => some ([], rest)

/-- Takes an optional sign; true is a minus. -/
def takeSign (s : List Char) : Bool × List Char :=
  match s with
  | '-' :: rest => (true, rest)
  | '+' :: rest => (false, rest)
  | rest => (false, rest)

/-- Takes an exponent, if its letter is next. -/
def takeExponent? (s : List Char) : Option (Option (Bool × List Char) × List Char) :=
  match s with
  | [] => some (none, [])
  | c :: rest =>
    if c = 'e' ∨ c = 'E' then
      let (negative, rest) := takeSign rest
      (takeDigits? rest).map fun (digits, rest) => (some (negative, digits), rest)
    else
      some (none, c :: rest)

/-- Takes a number off the front of a text. -/
def take? (s : List Char) : Option (Numeral × List Char) := do
  let (negative, s) := match s with
    | '-' :: rest => (true, rest)
    | rest => (false, rest)
  let (whole, s) ← takeWhole? s
  let (fraction, s) ← takeFraction? s
  let (exponent, s) ← takeExponent? s
  return (⟨negative, whole, fraction, exponent⟩, s)

/-- Appends digits while the number fits in 64 bits; the digits left over come back too. -/
def gather (significand : Nat) : List Char → Nat × List Char
  | [] => (significand, [])
  | c :: rest =>
    if 10 * significand + digitValue c < UInt64.size then
      gather (10 * significand + digitValue c) rest
    else
      (significand, c :: rest)

/-- The exponent part as an integer. -/
def exponentValue (n : Numeral) : Int :=
  match n.exponent with
  | none => 0
  | some (negative, digits) => if negative then -digitsValue digits else digitsValue digits

/-- The significand that fits in 64 bits and the power of ten that goes with it. -/
def parts (n : Numeral) : Nat × Int :=
  let (significand, extra) := gather 0 n.whole
  let (significand, unread) := gather significand n.fraction
  (significand, extra.length - (n.fraction.length - unread.length : Nat) + n.exponentValue)

/-- The significand as a double times a power of ten, in one rounded operation up to `10 ^ 308` and
two below `10 ^ -308`; none if it overflows. -/
def scaled? (significand : Nat) (exponent : Int) : Option Binary64 :=
  let x := Binary64.ofNat significand
  if 308 < exponent then
    if significand = 0 then some x else none
  else if 0 ≤ exponent then
    let y := x.mulMagnitude (Binary64.ofNat (Nat.pow 10 exponent.toNat))
    if y.isFinite then some y else none
  else if -308 ≤ exponent then
    some (x.divMagnitude (Binary64.ofNat (Nat.pow 10 (-exponent).toNat)))
  else if -616 ≤ exponent then
    some ((x.divMagnitude (Binary64.ofNat (Nat.pow 10 308))).divMagnitude
      (Binary64.ofNat (Nat.pow 10 (-exponent - 308).toNat)))
  else
    some (Binary64.ofNat 0)

/-- The double of a numeral, none if it overflows. -/
def float? (n : Numeral) : Option JsonNumber := do
  let (significand, exponent) := n.parts
  let x ← scaled? significand exponent
  JsonNumber.ofBinary64? (if n.negative then x.neg else x)

/-- Whether the numeral is written as an integer. -/
def isIntegral (n : Numeral) : Bool := n.fraction.isEmpty && n.exponent.isNone

/-- The number of a numeral: an integer if it is written as one and fits, else a double. A zero with
a minus sign is a double. -/
def number? (n : Numeral) : Option JsonNumber :=
  let value := digitsValue n.whole
  if !n.isIntegral then
    n.float?
  else if !n.negative then
    if value < UInt64.size then some (.unsigned (UInt64.ofNat value)) else n.float?
  else if h : Int64.ofInt (-value) < 0 ∧ Int64.minValue.toInt ≤ -value then
    some (.negative (Int64.ofInt (-value)) h.1)
  else
    n.float?

theorem length_of_takeDigits? {s digits rest : List Char}
    (taken : takeDigits? s = some (digits, rest)) : rest.length < s.length := by
  have lengths := congrArg List.length (List.takeWhile_append_dropWhile (p := isDigit) (l := s))
  rw [List.length_append] at lengths
  cases run : s.takeWhile isDigit with
  | nil => simp [takeDigits?, run] at taken
  | cons c more =>
      simp only [takeDigits?, run, Option.some.injEq, Prod.mk.injEq] at taken
      rw [run, taken.2, List.length_cons] at lengths
      omega

theorem length_of_takeWhole? {s digits rest : List Char}
    (taken : takeWhole? s = some (digits, rest)) : rest.length < s.length := by
  unfold takeWhole? at taken
  split at taken
  · cases taken
  · exact length_of_takeDigits? taken

theorem length_of_takeFraction? {s digits rest : List Char}
    (taken : takeFraction? s = some (digits, rest)) : rest.length ≤ s.length := by
  unfold takeFraction? at taken
  split at taken
  · exact Nat.le_succ_of_le (Nat.le_of_lt (length_of_takeDigits? taken))
  · obtain ⟨-, rfl⟩ := Prod.mk.inj (Option.some.inj taken)
    exact Nat.le_refl _

theorem length_takeSign (s : List Char) : (takeSign s).2.length ≤ s.length := by
  unfold takeSign
  split <;> simp

theorem length_of_takeExponent? {s rest : List Char} {exponent : Option (Bool × List Char)}
    (taken : takeExponent? s = some (exponent, rest)) : rest.length ≤ s.length := by
  unfold takeExponent? at taken
  split at taken
  · obtain ⟨-, rfl⟩ := Prod.mk.inj (Option.some.inj taken)
    exact Nat.le_refl _
  · rename_i c tail
    split at taken
    · obtain ⟨⟨digits, after⟩, digits_taken, pair_eq⟩ := Option.map_eq_some_iff.mp taken
      obtain ⟨-, rfl⟩ := Prod.mk.inj pair_eq
      calc
        after.length ≤ (takeSign tail).2.length := Nat.le_of_lt (length_of_takeDigits? digits_taken)
        _ ≤ tail.length := length_takeSign tail
        _ ≤ (c :: tail).length := Nat.le_succ _
    · obtain ⟨-, rfl⟩ := Prod.mk.inj (Option.some.inj taken)
      exact Nat.le_refl _

theorem length_of_take? {s rest : List Char} {n : Numeral}
    (taken : take? s = some (n, rest)) : rest.length < s.length := by
  obtain ⟨⟨whole, after_whole⟩, whole_taken, taken⟩ := Option.bind_eq_some_iff.mp taken
  obtain ⟨⟨fraction, after_fraction⟩, fraction_taken, taken⟩ := Option.bind_eq_some_iff.mp taken
  obtain ⟨⟨exponent, after_exponent⟩, exponent_taken, taken⟩ := Option.bind_eq_some_iff.mp taken
  obtain ⟨-, rfl⟩ := Prod.mk.inj (Option.some.inj taken)
  have after_whole_lt : after_whole.length < s.length := by
    have shorter := length_of_takeWhole? whole_taken
    split at shorter
    · exact Nat.lt_succ_of_lt shorter
    · exact shorter
  calc
    after_exponent.length ≤ after_fraction.length := length_of_takeExponent? exponent_taken
    _ ≤ after_whole.length := length_of_takeFraction? fraction_taken
    _ < s.length := after_whole_lt

end Numeral

end RequestParams
