/-!
# Fields ordered by key

Objects and mappings keep their fields as a list of keys and values in rising order of the keys,
each key once. Keys are ordered by code points, which is also the order of their UTF-8 bytes.
-/

namespace RequestParams

/-- Keys with values. -/
abbrev Fields (α : Type) := List (String × α)

namespace Fields

variable {α : Type}

/-- Sets the value of a key, keeping the order. -/
def insert (key : String) (value : α) : Fields α → Fields α
  | [] => [(key, value)]
  | (k, v) :: rest =>
    if key < k then (key, value) :: (k, v) :: rest
    else if key = k then (key, value) :: rest
    else (k, v) :: insert key value rest

/-- Fields given in any order; the last value of a repeated key stands. -/
def ofList (pairs : List (String × α)) : Fields α :=
  pairs.foldl (fun fields (key, value) => fields.insert key value) []

/-- The value of a key. -/
def get? (fields : Fields α) (key : String) : Option α := fields.lookup key

/-- The keys in order. -/
def keys (fields : Fields α) : List String := fields.map Prod.fst

/-- Rising keys, hence each key once. -/
def IsOrdered (fields : Fields α) : Prop := fields.Pairwise (·.1 < ·.1)

end Fields

end RequestParams
