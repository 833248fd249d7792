import RequestParams.Text.Digits

/-!
# Integers as text

An optional sign and one or more ASCII digits, with any number of leading zeros. Numbers are read
digit by digit; one that leaves the range of its type on the way is refused, never wrapped.
-/

namespace RequestParams.Text

/-- The integer, if it fits in 64 signed bits. -/
def int64OfInt? (n : Int) : Option Int64 :=
  if Int64.minValue.toInt ≤ n ∧ n ≤ Int64.maxValue.toInt then some (Int64.ofInt n) else none

/-- The number with one more digit, which takes it further from zero. The product must fit as well
as the sum. -/
def pushDigit? (negative : Bool) (n : Int64) (c : Char) : Option Int64 := do
  let shifted ← int64OfInt? (10 * n.toInt)
  int64OfInt? (if negative then shifted.toInt - digitValue c else shifted.toInt + digitValue c)

/-- The number with these digits after its own. -/
def pushDigits? (negative : Bool) (n : Int64) : List Char → Option Int64
  | [] => some n
  | c :: rest =>
    if isDigit c then do
      let next ← pushDigit? negative n c
      pushDigits? negative next rest
    else none

/-- The number of one or more digits, below zero if it is negative. -/
def signedDigits? (negative : Bool) (digits : List Char) : Option Int64 :=
  if digits.isEmpty then none else pushDigits? negative 0 digits

/-- The integer of a text, if it fits in 64 signed bits. -/
def int64? (s : String) : Option Int64 :=
  match s.toList with
  | '-' :: rest => signedDigits? true rest
  | '+' :: rest => signedDigits? false rest
  | rest => signedDigits? false rest

/-- The number of a text, which may have a plus sign, if it fits in 16 bits. -/
def uint16? (s : List Char) : Option UInt16 :=
  (natural? (match s with
    | '+' :: rest => rest
    | rest => rest)).bind fun n => if n < UInt16.size then some (UInt16.ofNat n) else none

end RequestParams.Text
