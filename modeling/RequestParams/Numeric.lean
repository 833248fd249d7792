import RequestParams.Binary64.Shortest

/-!
# Numeric bounds

A bound is an integer of 64 bits or a double. Two integers compare exactly; as soon as a double
takes part, both sides are compared as doubles.
-/

namespace RequestParams

/-- Doubles among numeric bounds: positional whatever the exponent, whole numbers without a
point. -/
def Binary64.plainLayout : Binary64.Layout where
  positional _ := true
  pointZero := false
  tie := .away

/-- An integer or a double. -/
inductive Numeric
  | int (n : Int64)
  | float (x : Binary64)

namespace Numeric

/-- The nearest double. -/
def toBinary64 : Numeric → Binary64
  | int n => Binary64.ofInt n.toInt
  | float x => x

/-- The order of bounds; a NaN compares with nothing. -/
def compare? : Numeric → Numeric → Option Ordering
  | int m, int n => some (compare m.toInt n.toInt)
  | a, b => a.toBinary64.compare? b.toBinary64

/-- Whether a bound is at most another number; false if a NaN takes part. -/
def isAtMost (bound n : Numeric) : Bool :=
  match n.compare? bound with
  | some order => order != .lt
  | none => false

/-- Whether a bound is at least another number; false if a NaN takes part. -/
def isAtLeast (bound n : Numeric) : Bool :=
  match n.compare? bound with
  | some order => order != .gt
  | none => false

/-- Same kind and equal numbers. -/
def same : Numeric → Numeric → Bool
  | int m, int n => m == n
  | float x, float y => x.equals y
  | _, _ => false

/-- The text of a bound. -/
def text : Numeric → String
  | int n => toString n.toInt
  | float x => Binary64.plainLayout.write x

end Numeric

end RequestParams
