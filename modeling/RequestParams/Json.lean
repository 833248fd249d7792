import RequestParams.Binary64
import RequestParams.Fields

/-!
# JSON documents

A document distinguishes three kinds of number, as readers and writers of JSON do: unsigned integers
of 64 bits, negative ones, and finite doubles.
-/

namespace RequestParams

/-- A number of a JSON document. -/
inductive JsonNumber
  /-- An integer from zero up. -/
  | unsigned (n : UInt64)
  /-- An integer below zero. -/
  | negative (n : Int64) (is_negative : n < 0)
  /-- Any other number. -/
  | float (x : Binary64) (is_finite : x.isFinite = true)
deriving DecidableEq

/-- A JSON document. Objects list their members in rising order of the keys. -/
inductive Json
  | null
  | bool (b : Bool)
  | number (n : JsonNumber)
  | string (s : String)
  | array (items : List Json)
  | object (members : List (String × Json))

namespace JsonNumber

/-- The number of an integer of 64 bits. -/
def ofInt64 (n : Int64) : JsonNumber :=
  if h : n < 0 then .negative n h else .unsigned n.toUInt64

/-- The number of a finite double. -/
def ofBinary64? (x : Binary64) : Option JsonNumber :=
  if h : x.isFinite = true then some (.float x h) else none

end JsonNumber

end RequestParams
