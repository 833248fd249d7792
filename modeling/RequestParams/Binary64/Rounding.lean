import RequestParams.Binary64

/-!
# Rounding to double precision

A quotient of natural numbers is rounded to the nearest double, a tie going to the even neighbour.
In units of `2 ^ -1074` the doubles below a power of two are equally spaced, and the word of a
double is its exponent field times `2 ^ 52` plus the rounded significand, so that a carry out of
the significand moves to the next exponent by itself.
-/

namespace RequestParams

/-- The quotient rounded to the nearest integer, a tie to the even one. -/
def roundDiv (num den : Nat) : Nat :=
  let quotient := num / den
  let twice := 2 * (num % den)
  if den < twice || (twice == den && quotient % 2 == 1) then quotient + 1 else quotient

namespace Binary64

/-- Exponent and fraction fields of positive infinity. -/
def infinityFields : Nat := 2047 * Nat.pow 2 52

/-- Fields of the double nearest to `num / den` units of `2 ^ -1074`. -/
def fieldsOfUnits (num den : Nat) : Nat :=
  let scale := (num / den).log2 - 52
  min (scale * Nat.pow 2 52 + roundDiv num (den * Nat.pow 2 scale)) infinityFields

/-- The double nearest to `num / den`, infinite beyond the largest finite one. -/
def ofRatio (negative : Bool) (num den : Nat) : Binary64 :=
  ofFields negative (fieldsOfUnits (num * unitsPerOne) den)

/-- The double nearest to a natural number. -/
def ofNat (n : Nat) : Binary64 := ofRatio false n 1

/-- The double nearest to an integer. -/
def ofInt (n : Int) : Binary64 := ofRatio (n < 0) n.natAbs 1

/-- The double nearest to `significand * 10 ^ exponent`. -/
def ofDecimal (negative : Bool) (significand : Nat) (exponent : Int) : Binary64 :=
  match exponent with
  | .ofNat e => ofRatio negative (significand * Nat.pow 10 e) 1
  | .negSucc e => ofRatio negative significand (Nat.pow 10 (e + 1))

/-- Rounded product of two nonnegative finite doubles. -/
def mulMagnitude (x y : Binary64) : Binary64 :=
  ofFields false (fieldsOfUnits (x.magnitude * y.magnitude) unitsPerOne)

/-- Rounded quotient of a nonnegative finite double by a positive one. -/
def divMagnitude (x y : Binary64) : Binary64 :=
  ofRatio false x.magnitude y.magnitude

end Binary64

end RequestParams
