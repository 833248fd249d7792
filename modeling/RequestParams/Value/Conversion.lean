import RequestParams.Json.Printer
import RequestParams.Value

/-!
# Values and JSON documents

An integer of a document that fits in 64 signed bits becomes an integer value; every other number
becomes a double. In the other direction attachments show their metadata only, and a double without
a JSON form becomes `null`.
-/

namespace RequestParams

namespace Value

/-- The value of a number of a document. -/
def ofJsonNumber : JsonNumber → Value
  | .unsigned n =>
    if n.toNat ≤ Int64.maxValue.toInt then int n.toInt64 else float (Binary64.ofNat n.toNat)
  | .negative n _ => int n
  | .float x _ => float x

mutual

/-- The value of a document. -/
def ofJson : Json → Value
  | .null => null
  | .bool b => bool b
  | .number n => ofJsonNumber n
  | .string s => str s
  | .array items => list (ofJsonItems items)
  | .object members => dict (ofJsonMembers members)

/-- The values of the items of an array. -/
def ofJsonItems : List Json → List Value
  | [] => []
  | item :: rest => ofJson item :: ofJsonItems rest

/-- The values of the members of an object. -/
def ofJsonMembers : List (String × Json) → List (String × Value)
  | [] => []
  | (key, value) :: rest => (key, ofJson value) :: ofJsonMembers rest

end

/-- The metadata of an attachment: its contents appear by their size only. -/
def attachmentJson (file : Attachment) : Json :=
  .object [("content_type", .string file.contentType), ("filename", .string file.filename),
    ("size", .number (.unsigned (UInt64.ofNat file.size)))]

mutual

/-- The document of a value. -/
def toJson : Value → Json
  | null => .null
  | bool b => .bool b
  | int n => .number (.ofInt64 n)
  | float x => ((JsonNumber.ofBinary64? x).map Json.number).getD .null
  | str s => .string s
  | list items => .array (toJsonItems items)
  | dict fields => .object (toJsonFields fields)
  | files attachments => .array (attachments.map attachmentJson)

/-- The documents of the items of a list. -/
def toJsonItems : List Value → List Json
  | [] => []
  | item :: rest => toJson item :: toJsonItems rest

/-- The documents of the fields of a mapping. -/
def toJsonFields : List (String × Value) → List (String × Json)
  | [] => []
  | (key, value) :: rest => (key, toJson value) :: toJsonFields rest

end

/-- A value inside a message: texts quoted, uploads by filename, all else as compact JSON. -/
def text : Value → String
  | str s => Text.quote s
  | files attachments =>
    "files[" ++ ", ".intercalate (attachments.map fun file => Text.quote file.filename) ++ "]"
  | value => value.toJson.compact

end Value

end RequestParams
