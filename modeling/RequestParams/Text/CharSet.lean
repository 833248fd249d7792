/-!
# Sets of characters as ranges

A character property is stored as the list of its maximal ranges of code points, in rising order.
Long lists are written in hexadecimal: `41-5A 5F` stands for two ranges.
-/

namespace RequestParams.Text

/-- Ranges of code points, both ends included. -/
abbrev CharSet := List (Nat × Nat)

/-- Membership of a character in one of the ranges. -/
def CharSet.contains (s : CharSet) (c : Char) : Bool :=
  s.any fun (first, last) => first ≤ c.toNat && c.toNat ≤ last

/-- The value of a hexadecimal digit, zero for other characters. -/
def hexDigitValue (c : Char) : Nat :=
  if c.isDigit then c.toNat - '0'.toNat
  else if 'A' ≤ c ∧ c ≤ 'F' then c.toNat - 'A'.toNat + 10
  else 0

/-- A range being read: its first code point, if complete, and the number read last. -/
structure PartialRange where
  /-- The first code point, once its last one is being read. -/
  first? : Option Nat
  /-- The number read so far. -/
  number : Nat

/-- The range that ends here. -/
def PartialRange.finish (r : PartialRange) : Nat × Nat := (r.first?.getD r.number, r.number)

/-- Reads one character of a list of ranges; finished ranges come last first. -/
def CharSet.readChar (state : CharSet × PartialRange) (c : Char) : CharSet × PartialRange :=
  let (done, current) := state
  if c = ' ' then (current.finish :: done, ⟨none, 0⟩)
  else if c = '-' then (done, ⟨some current.number, 0⟩)
  else (done, { current with number := 16 * current.number + hexDigitValue c })

/-- The ranges of one line in hexadecimal. -/
def CharSet.ofLine (s : String) : CharSet :=
  let (done, current) := s.toList.foldl readChar ([], ⟨none, 0⟩)
  (current.finish :: done).reverse

/-- The ranges of several lines in hexadecimal. -/
def CharSet.ofHex (lines : List String) : CharSet := lines.flatMap ofLine

end RequestParams.Text
