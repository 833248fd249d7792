import RequestParams.Binary64.Rounding

/-!
# Shortest decimals and their layouts

The shortest decimal of a double is the point of the coarsest decimal grid that rounds to it, of two
such points the nearer. A `Layout` fixes what the number theory leaves open: which exponents are
written positionally, whether a whole number shows a fraction, and where an exact tie goes.
-/

namespace RequestParams

/-- Which of two equally near grid points is taken. -/
inductive Tie
  /-- The point with the even last digit. -/
  | toEven
  /-- The point farther from zero. -/
  | away
deriving DecidableEq, Repr

/-- A positive decimal number `digits * 10 ^ exponent`. -/
structure Decimal where
  /-- The digits read as one number. -/
  digits : Nat
  /-- The power of ten of the last digit. -/
  exponent : Int
deriving DecidableEq, Repr

namespace Binary64

/-- Numbers of quarter units that round to a double: centre and half widths of its interval. -/
structure Interval where
  /-- Four times the magnitude. -/
  centre : Nat
  /-- Distance to the lower end. -/
  below : Nat
  /-- Distance to the upper end. -/
  above : Nat
  /-- Whether the ends themselves round to the double. -/
  closed : Bool

/-- The interval that rounds to `x`; below a power of two the spacing halves. -/
def interval (x : Binary64) : Interval where
  centre := 4 * x.magnitude
  below :=
    if x.fractionField = 0 && 1 < x.exponentField then Nat.pow 2 x.scale
    else 2 * Nat.pow 2 x.scale
  above := 2 * Nat.pow 2 x.scale
  closed := x.significand % 2 == 0

/-- Whether `num / den` quarter units lie in the interval. -/
def Interval.contains (i : Interval) (num den : Nat) : Bool :=
  if i.closed then
    (i.centre - i.below) * den ≤ num && num ≤ (i.centre + i.above) * den
  else
    (i.centre - i.below) * den < num && num < (i.centre + i.above) * den

/-- Quarter units in a positive power of ten, as numerator and denominator. -/
def gridStep (exponent : Int) : Nat × Nat :=
  match exponent with
  | .ofNat e => (4 * unitsPerOne * Nat.pow 10 e, 1)
  | .negSucc e => (4 * unitsPerOne, Nat.pow 10 (e + 1))

/-- The multiple of `10 ^ exponent` that rounds to the interval's double, if there is one. -/
def Interval.nearestOn? (i : Interval) (tie : Tie) (exponent : Int) : Option Nat :=
  let (step, den) := gridStep exponent
  let lower := i.centre * den / step
  match i.contains (lower * step) den, i.contains ((lower + 1) * step) den with
  | false, false => none
  | true, false => some lower
  | false, true => some (lower + 1)
  | true, true =>
    let left := i.centre * den - lower * step
    let right := (lower + 1) * step - i.centre * den
    match compare left right with
    | .lt => some lower
    | .gt => some (lower + 1)
    | .eq => some (if tie = .toEven && lower % 2 == 0 then lower else lower + 1)

/-- The first hit on the grids from `10 ^ exponent` downwards. -/
def Interval.coarsest (i : Interval) (tie : Tie) : Nat → Int → Decimal
  | 0, exponent => ⟨0, exponent⟩
  | fuel + 1, exponent =>
    match i.nearestOn? tie exponent with
    | some digits => ⟨digits, exponent⟩
    | none => i.coarsest tie fuel (exponent - 1)

/-- A power of ten above the interval of `x`. -/
def gridAbove (x : Binary64) : Int :=
  (x.magnitude.log2 - 1072 : Int) * 30103 / 100000 + 1

/-- The shortest decimal that rounds to the absolute value of `x`, for `x` finite and not zero.
Seventeen digits always suffice. -/
def shortest (tie : Tie) (x : Binary64) : Decimal :=
  x.interval.coarsest tie 24 x.gridAbove

/-- Choices of a decimal notation for doubles. -/
structure Layout where
  /-- Exponents of the leading digit that are written without an exponent part. -/
  positional : Int → Bool
  /-- Whether a whole number in positional form ends in a point and a zero. -/
  pointZero : Bool
  /-- Where a tie between two shortest decimals goes. -/
  tie : Tie

/-- The characters of `count` zeros. -/
def zeros (count : Int) : List Char := List.replicate count.toNat '0'

/-- Digits in positional form, `exponent` being that of the leading digit. -/
def Layout.writePositional (layout : Layout) (digits : List Char) (exponent : Int) : List Char :=
  if exponent < 0 then
    ['0', '.'] ++ zeros (-exponent - 1) ++ digits
  else if (digits.length : Int) ≤ exponent + 1 then
    digits ++ zeros (exponent + 1 - digits.length) ++
      if layout.pointZero then ['.', '0'] else []
  else
    let whole := (exponent + 1).toNat
    digits.take whole ++ '.' :: digits.drop whole

/-- Digits with an exponent part that always carries its sign. -/
def writeScientific (digits : List Char) (exponent : Int) : List Char :=
  let fraction := match digits.drop 1 with
    | [] => []
    | rest => '.' :: rest
  digits.take 1 ++ fraction ++ ['e', if exponent < 0 then '-' else '+'] ++
    Nat.toDigits 10 exponent.natAbs

/-- A positive decimal in the given layout. -/
def Layout.writeDecimal (layout : Layout) (d : Decimal) : List Char :=
  let digits := Nat.toDigits 10 d.digits
  let exponent := d.exponent + digits.length - 1
  if layout.positional exponent then layout.writePositional digits exponent
  else writeScientific digits exponent

/-- A finite double in the given layout. -/
def Layout.writeFinite (layout : Layout) (x : Binary64) : List Char :=
  let sign := if x.isNegative then ['-'] else []
  let body := if x.magnitude = 0 then layout.writePositional ['0'] 0
    else layout.writeDecimal (x.shortest layout.tie)
  sign ++ body

/-- A double in the given layout; a NaN shows no sign. -/
def Layout.write (layout : Layout) (x : Binary64) : String :=
  String.ofList <|
    if x.isNaN then "NaN".toList
    else if x.isFinite then layout.writeFinite x
    else (if x.isNegative then "-inf" else "inf").toList

end Binary64

end RequestParams
