import RequestParams.Attachment
import RequestParams.Fields
import RequestParams.Numeric

/-!
# Request values

A `Value` is what a request parameter holds before and after coercion. Its kind is one of eight, and
equality is that of numbers, so that a NaN differs from itself at any depth.
-/

namespace RequestParams

/-- A value taken from a request. Mappings list their fields in rising order of the keys. -/
inductive Value
  | null
  | bool (b : Bool)
  | int (n : Int64)
  | float (x : Binary64)
  | str (s : String)
  | list (items : List Value)
  | dict (fields : List (String × Value))
  | files (attachments : List Attachment)

namespace Value

/-- The name of a value's kind. -/
def kindName : Value → String
  | null => "null"
  | bool _ => "bool"
  | int _ => "int"
  | float _ => "float"
  | str _ => "str"
  | list _ => "list"
  | dict _ => "dict"
  | files _ => "file"

/-- The text of a text value. -/
def str? : Value → Option String
  | str s => some s
  | _ => none

/-- The integer of an integer value. -/
def int? : Value → Option Int64
  | int n => some n
  | _ => none

/-- The double of a floating point value. -/
def float? : Value → Option Binary64
  | float x => some x
  | _ => none

/-- The truth value of a boolean. -/
def bool? : Value → Option Bool
  | bool b => some b
  | _ => none

/-- The items of a list. -/
def list? : Value → Option (List Value)
  | list items => some items
  | _ => none

/-- The fields of a mapping. -/
def dict? : Value → Option (Fields Value)
  | dict fields => some fields
  | _ => none

/-- The attachments of an upload. -/
def files? : Value → Option (List Attachment)
  | files attachments => some attachments
  | _ => none

/-- The number of an integer or floating point value. -/
def number? : Value → Option Numeric
  | int n => some (.int n)
  | float x => some (.float x)
  | _ => none

/-- Characters of a text, or entries of a container. -/
def length? : Value → Option Nat
  | str s => some s.length
  | list items => some items.length
  | dict fields => some fields.length
  | files attachments => some attachments.length
  | _ => none

/-- A mapping of fields given in any order; the last value of a repeated key stands. -/
def ofPairs (pairs : List (String × Value)) : Value := dict (Fields.ofList pairs)

mutual

/-- Same kind and equal contents, doubles compared as numbers. -/
def same : Value → Value → Bool
  | null, null => true
  | bool a, bool b => a == b
  | int m, int n => m == n
  | float x, float y => x.equals y
  | str s, str t => s == t
  | list xs, list ys => sameItems xs ys
  | dict xs, dict ys => sameFields xs ys
  | files xs, files ys => xs == ys
  | _, _ => false

/-- Equal items one by one. -/
def sameItems : List Value → List Value → Bool
  | [], [] => true
  | x :: xs, y :: ys => same x y && sameItems xs ys
  | _, _ => false

/-- Equal keys and equal values one by one. -/
def sameFields : List (String × Value) → List (String × Value) → Bool
  | [], [] => true
  | (j, x) :: xs, (k, y) :: ys => j == k && same x y && sameFields xs ys
  | _, _ => false

end

end Value

end RequestParams
