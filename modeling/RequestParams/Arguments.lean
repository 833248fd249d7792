import RequestParams.Value.Conversion

/-!
# Validated arguments

What a validated request hands to its handler: for each declared parameter, in order, its value, or
nothing for an optional one that was not given.
-/

namespace RequestParams

/-- Named values, some of them absent. -/
structure Arguments where
  /-- Names with values in the order of the declarations. -/
  entries : List (String × Option Value)

namespace Arguments

/-- The number of parameters, absent ones included. -/
def size (args : Arguments) : Nat := args.entries.length

/-- The value of a present parameter. -/
def get? (args : Arguments) (name : String) : Option Value := (args.entries.lookup name).join

/-- Whether a parameter was declared. -/
def contains (args : Arguments) (name : String) : Bool := args.entries.any (·.1 == name)

/-- Whether a parameter is present. -/
def isPresent (args : Arguments) (name : String) : Bool := (args.get? name).isSome

/-- The text of a parameter that is text. -/
def str? (args : Arguments) (name : String) : Option String := (args.get? name).bind Value.str?

/-- The integer of a parameter that is an integer. -/
def int? (args : Arguments) (name : String) : Option Int64 := (args.get? name).bind Value.int?

/-- The double of a parameter that is a floating point number. -/
def float? (args : Arguments) (name : String) : Option Binary64 :=
  (args.get? name).bind Value.float?

/-- The truth value of a parameter that is one. -/
def bool? (args : Arguments) (name : String) : Option Bool := (args.get? name).bind Value.bool?

/-- The items of a parameter that is a list. -/
def list? (args : Arguments) (name : String) : Option (List Value) :=
  (args.get? name).bind Value.list?

/-- The fields of a parameter that is a mapping. -/
def dict? (args : Arguments) (name : String) : Option (Fields Value) :=
  (args.get? name).bind Value.dict?

/-- The attachments of a parameter that is an upload. -/
def files? (args : Arguments) (name : String) : Option (List Attachment) :=
  (args.get? name).bind Value.files?

/-- The document of an entry; an absent parameter is `null`. -/
def entryJson (value : Option Value) : Json :=
  match value with
  | some value => value.toJson
  | none => .null

/-- All parameters as one object. -/
def toJson (args : Arguments) : Json :=
  .object (Fields.ofList (args.entries.map fun (name, value) => (name, entryJson value)))

end Arguments

end RequestParams
