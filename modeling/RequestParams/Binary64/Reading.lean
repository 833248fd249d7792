import RequestParams.Binary64.Rounding
import RequestParams.Text.Digits

/-!
# Doubles as text

A decimal number is an optional sign, digits with at most one point among or around them, and an
optional exponent. It is rounded to the nearest double. Names of numbers that are not finite are no
decimal numbers, and a number that rounds to infinity is refused.
-/

namespace RequestParams

namespace Binary64

open Text

/-- A number as written: its sign, its digits as one number, and its power of ten. -/
structure Written where
  /-- Whether a minus sign stands in front. -/
  negative : Bool
  /-- The digits on both sides of the point. -/
  digits : List Char
  /-- The power of ten of the last digit. -/
  exponent : Int
deriving DecidableEq, Repr

/-- The value of the digits of an exponent. Digits are read until the value reaches `2 ^ 16`, which
is far beyond the range of doubles; later ones do not count. -/
def exponentValue (digits : List Char) : Nat :=
  digits.foldl (fun n c => if n < 0x10000 then 10 * n + digitValue c else n) 0

/-- Splits an optional sign off the front; true is a minus. -/
def splitSign (s : List Char) : Bool × List Char :=
  match s with
  | '-' :: rest => (true, rest)
  | '+' :: rest => (false, rest)
  | rest => (false, rest)

/-- Splits a point and the digits after it off the front, if a point is next. -/
def splitFraction (s : List Char) : List Char × List Char :=
  match s with
  | '.' :: rest => (rest.takeWhile isDigit, rest.dropWhile isDigit)
  | rest => ([], rest)

/-- Reads an exponent up to the end: nothing, or a letter, an optional sign and digits. -/
def readExponent? (s : List Char) : Option Int :=
  match s with
  | [] => some 0
  | c :: rest =>
    if c = 'e' ∨ c = 'E' then
      let (negative, digits) := splitSign rest
      if isDigits digits then
        some (if negative then -exponentValue digits else exponentValue digits)
      else none
    else none

/-- Reads a decimal number. -/
def Written.ofChars? (s : List Char) : Option Written :=
  let (negative, s) := splitSign s
  let whole := s.takeWhile isDigit
  let (fraction, s) := splitFraction (s.dropWhile isDigit)
  if (whole ++ fraction).isEmpty then none
  else
    (readExponent? s).map fun exponent =>
      ⟨negative, whole ++ fraction, exponent - fraction.length⟩

/-- The nearest double. -/
def Written.toBinary64 (w : Written) : Binary64 :=
  ofDecimal w.negative (digitsValue w.digits) w.exponent

/-- The finite double nearest to the number of a text. -/
def ofText? (s : String) : Option Binary64 :=
  (Written.ofChars? s.toList).bind fun w =>
    if w.toBinary64.isFinite then some w.toBinary64 else none

end Binary64

end RequestParams
