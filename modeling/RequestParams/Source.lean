import RequestParams.Json

/-!
# Sources of request values
-/

namespace RequestParams

/-- The channel of a request that supplies a parameter. -/
inductive Source
  | route
  | query
  | form
  | json
  | header
  | file
deriving DecidableEq, Repr

namespace Source

/-- All sources. -/
def all : List Source := [route, query, form, json, header, file]

/-- The name of a source, in messages and in JSON. -/
def name : Source → String
  | route => "Route"
  | query => "Query"
  | form => "Form"
  | json => "Json"
  | header => "Header"
  | file => "File"

/-- The source of a name. -/
def ofName? (name : String) : Option Source := all.find? fun source => source.name == name

/-- Whether values arrive as text, which coercion may convert. -/
def isTextBearing : Source → Bool
  | route | query | form | header => true
  | json | file => false

/-- A source as a JSON document. -/
def toJson (source : Source) : Json := .string source.name

/-- The source of a document: its name, alone or as the only key of an object whose value is
null. -/
def ofJson? : Json → Option Source
  | .string name => ofName? name
  | .object [(name, .null)] => ofName? name
  | _ => none

end Source

end RequestParams
