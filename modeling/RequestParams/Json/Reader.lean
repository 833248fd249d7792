import RequestParams.Json.Outline

/-!
# Reading JSON text

An outline becomes a document when its surrogates pair up, its numbers fit into doubles, and it is
nested no deeper than 127 containers. Of a repeated key the last member stands.
-/

namespace RequestParams

namespace StringUnit

/-- A leading surrogate. -/
def isLeading (n : Nat) : Bool := 0xD800 ≤ n && n < 0xDC00

/-- A trailing surrogate. -/
def isTrailing (n : Nat) : Bool := 0xDC00 ≤ n && n < 0xE000

/-- The characters of a string; none if a surrogate stands alone. -/
def characters? : List StringUnit → Option (List Char)
  | [] => some []
  | char c :: rest => (characters? rest).map (c :: ·)
  | utf16 n :: rest =>
    if isTrailing n then none
    else if isLeading n then
      match rest with
      | utf16 m :: rest =>
        if isTrailing m then
          (characters? rest).map (Char.ofNat (0x10000 + 0x400 * (n - 0xD800) + (m - 0xDC00)) :: ·)
        else none
      | _ => none
    else (characters? rest).map (Char.ofNat n :: ·)

/-- The text of a string. -/
def text? (units : List StringUnit) : Option String := (characters? units).map String.ofList

end StringUnit

namespace Json

/-- The number of containers a document may be nested in. -/
def maxDepth : Nat := 127

mutual

/-- The document of an outline that is nested at most `depth` deep. -/
def ofOutline? (depth : Nat) : Outline → Option Json
  | .null => some null
  | .bool b => some (bool b)
  | .number n => n.number?.map number
  | .string units => (StringUnit.text? units).map string
  | .array items =>
    match depth with
    | 0 => none
    | depth + 1 => (ofItems? depth items).map array
  | .object members =>
    match depth with
    | 0 => none
    | depth + 1 => (ofMembers? depth members).map fun members => object (Fields.ofList members)

/-- The documents of the items of an array. -/
def ofItems? (depth : Nat) : List Outline → Option (List Json)
  | [] => some []
  | item :: rest => do return (← ofOutline? depth item) :: (← ofItems? depth rest)

/-- The documents of the members of an object, in the order of the text. -/
def ofMembers? (depth : Nat) : List (List StringUnit × Outline) → Option (List (String × Json))
  | [] => some []
  | (key, value) :: rest => do
    let key ← StringUnit.text? key
    let value ← ofOutline? depth value
    return (key, value) :: (← ofMembers? depth rest)

end

/-- Reads a document from text. -/
def ofString? (s : String) : Option Json := (Outline.ofChars? s.toList).bind (ofOutline? maxDepth)

/-- Reads a document from bytes, which must be UTF-8. -/
def ofBytes? (bytes : List UInt8) : Option Json :=
  (String.fromUTF8? (ByteArray.mk bytes.toArray)).bind ofString?

end Json

end RequestParams
