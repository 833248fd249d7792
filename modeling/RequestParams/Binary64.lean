/-!
# Double precision numbers

A `Binary64` is the 64-bit word of an IEEE 754 double. Its exact value is read off the word as an
integer count of `2 ^ -1074`, the least positive double, so that order and equality are those of
integers and no rounding enters them. Powers are written `Nat.pow`, so that they are the same powers
whatever algebra is in scope.
-/

namespace RequestParams

/-- The 64-bit word of a double precision number. -/
structure Binary64 where
  /-- Sign bit, eleven exponent bits, fifty-two fraction bits. -/
  bits : UInt64
deriving DecidableEq, Repr

namespace Binary64

/-- The word with the given sign, and exponent and fraction fields read as one number. -/
def ofFields (negative : Bool) (fields : Nat) : Binary64 :=
  ⟨UInt64.ofNat (fields + if negative then Nat.pow 2 63 else 0)⟩

/-- The sign bit. -/
def isNegative (x : Binary64) : Bool := Nat.pow 2 63 ≤ x.bits.toNat

/-- The eleven bits of the exponent field. -/
def exponentField (x : Binary64) : Nat := x.bits.toNat / Nat.pow 2 52 % Nat.pow 2 11

/-- The fifty-two bits of the fraction field. -/
def fractionField (x : Binary64) : Nat := x.bits.toNat % Nat.pow 2 52

/-- Neither infinite nor a NaN. -/
def isFinite (x : Binary64) : Bool := x.exponentField != 2047

/-- Not a number. -/
def isNaN (x : Binary64) : Bool := x.exponentField == 2047 && x.fractionField != 0

/-- The integer significand, with the leading one of a normal number. -/
def significand (x : Binary64) : Nat :=
  if x.exponentField = 0 then x.fractionField else x.fractionField + Nat.pow 2 52

/-- The power of two that scales the significand, counted from `2 ^ -1074`. -/
def scale (x : Binary64) : Nat := x.exponentField - 1

/-- The absolute value in units of `2 ^ -1074`; an infinity stands as `2 ^ 1024`. -/
def magnitude (x : Binary64) : Nat := x.significand * Nat.pow 2 x.scale

/-- The exact value in units of `2 ^ -1074`. Both zeros have the value zero. -/
def units (x : Binary64) : Int := if x.isNegative then -x.magnitude else x.magnitude

/-- The value one in units of `2 ^ -1074`. -/
def unitsPerOne : Nat := Nat.pow 2 1074

/-- Numeric comparison; a NaN compares with nothing. -/
def compare? (x y : Binary64) : Option Ordering :=
  if x.isNaN || y.isNaN then none else some (compare x.units y.units)

/-- Numeric equality: the two zeros are equal and a NaN differs from itself. -/
def equals (x y : Binary64) : Bool := x.compare? y == some .eq

/-- The double of opposite sign. -/
def neg (x : Binary64) : Binary64 := ⟨x.bits ^^^ 0x8000000000000000⟩

end Binary64

end RequestParams
