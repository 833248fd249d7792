import RequestParams.Json.Token

/-!
# Outlines of JSON text

An outline is the tree of a JSON text whose numbers and strings are still as written. It is built
from tokens with a stack of the containers that are still open, to any depth.
-/

namespace RequestParams

/-- The tree of a JSON text with its numbers and strings as written. -/
inductive Outline
  | null
  | bool (b : Bool)
  | number (n : Numeral)
  | string (units : List StringUnit)
  | array (items : List Outline)
  | object (members : List (List StringUnit × Outline))

namespace Outline

/-- A container that is still open. What it holds so far comes last first. -/
inductive Frame
  | array (items : List Outline)
  | object (members : List (List StringUnit × Outline)) (key : List StringUnit)

/-- What may come next. -/
inductive Phase
  /-- A value. -/
  | value
  /-- The first item of an array, or its end. -/
  | itemOrEnd
  /-- The first key of an object, or its end. -/
  | keyOrEnd
  /-- The next key of an object with these members. -/
  | key (members : List (List StringUnit × Outline))
  /-- The colon after a key. -/
  | colon (members : List (List StringUnit × Outline)) (key : List StringUnit)
  /-- What follows a complete value in the innermost open container. -/
  | complete (value : Outline)

/-- The outline of a token that is a value by itself. -/
def ofScalar? : JsonToken → Option Outline
  | .null => some null
  | .bool b => some (bool b)
  | .number n => some (number n)
  | .string units => some (string units)
  | _ => none

/-- Starts a value with a token. -/
def start? (t : JsonToken) (stack : List Frame) : Option (Phase × List Frame) :=
  match t with
  | .openArray => some (.itemOrEnd, stack)
  | .openObject => some (.keyOrEnd, stack)
  | t => (ofScalar? t).map fun value => (.complete value, stack)

/-- Reads one token. -/
def step : Phase × List Frame → JsonToken → Option (Phase × List Frame)
  | (.value, stack), t => start? t stack
  | (.itemOrEnd, stack), .closeArray => some (.complete (array []), stack)
  | (.itemOrEnd, stack), t => start? t (.array [] :: stack)
  | (.keyOrEnd, stack), .closeObject => some (.complete (object []), stack)
  | (.keyOrEnd, stack), .string key => some (.colon [] key, stack)
  | (.key members, stack), .string key => some (.colon members key, stack)
  | (.colon members key, stack), .colon => some (.value, .object members key :: stack)
  | (.complete value, .array items :: stack), .comma =>
    some (.value, .array (value :: items) :: stack)
  | (.complete value, .array items :: stack), .closeArray =>
    some (.complete (array (value :: items).reverse), stack)
  | (.complete value, .object members key :: stack), .comma =>
    some (.key ((key, value) :: members), stack)
  | (.complete value, .object members key :: stack), .closeObject =>
    some (.complete (object ((key, value) :: members).reverse), stack)
  | _, _ => none

/-- The outline of a sequence of tokens. -/
def ofTokens? (tokens : List JsonToken) : Option Outline :=
  match tokens.foldlM step (.value, []) with
  | some (.complete value, []) => some value
  | _ => none

/-- The outline of a text. -/
def ofChars? (s : List Char) : Option Outline := (JsonToken.ofChars? s).bind ofTokens?

end Outline

end RequestParams
