import RequestParams.Binary64.Shortest
import RequestParams.Json
import RequestParams.Text.Quoted

/-!
# Compact JSON text

A document is written without blanks. Doubles are written with their shortest digits, positionally
from `1e-5` up to `1e16` and always with a fraction or an exponent, so that a reader takes them for
doubles again. Strings escape the quote, the backslash and the controls below the space.
-/

namespace RequestParams

/-- Doubles in JSON text. -/
def Binary64.jsonLayout : Binary64.Layout where
  positional exponent := -5 ≤ exponent && exponent < 16
  pointZero := true
  tie := .toEven

namespace JsonNumber

/-- The text of a number. -/
def chars : JsonNumber → List Char
  | unsigned n => Nat.toDigits 10 n.toNat
  | negative n _ => '-' :: Nat.toDigits 10 n.toInt.natAbs
  | float x _ => Binary64.jsonLayout.writeFinite x

end JsonNumber

namespace Json

/-- A number below 256 as the last two of four hexadecimal digits. -/
def lastHexDigits (n : Nat) : List Char :=
  [Nat.digitChar (n / 16), Nat.digitChar (n % 16)]

/-- A character inside a JSON string. -/
def escapeChar (c : Char) : List Char :=
  match c with
  | '"' => ['\\', '"']
  | '\\' => ['\\', '\\']
  | '\x08' => ['\\', 'b']
  | '\x0c' => ['\\', 'f']
  | '\n' => ['\\', 'n']
  | '\r' => ['\\', 'r']
  | '\t' => ['\\', 't']
  | c => if c.toNat < 0x20 then ['\\', 'u', '0', '0'] ++ lastHexDigits c.toNat else [c]

/-- A text as a JSON string. -/
def stringChars (s : String) : List Char :=
  '"' :: s.toList.flatMap escapeChar ++ ['"']

/-- Parts joined by commas. -/
def joinCommas : List (List Char) → List Char
  | [] => []
  | [part] => part
  | part :: rest => part ++ ',' :: joinCommas rest

mutual

/-- The compact text of a document. -/
def chars : Json → List Char
  | null => "null".toList
  | bool b => (if b then "true" else "false").toList
  | number n => n.chars
  | string s => stringChars s
  | array items => '[' :: joinCommas (itemChars items) ++ [']']
  | object members => '\x7b' :: joinCommas (memberChars members) ++ ['\x7d']

/-- The texts of the items of an array. -/
def itemChars : List Json → List (List Char)
  | [] => []
  | item :: rest => item.chars :: itemChars rest

/-- The texts of the members of an object. -/
def memberChars : List (String × Json) → List (List Char)
  | [] => []
  | (key, value) :: rest => (stringChars key ++ ':' :: value.chars) :: memberChars rest

end

/-- The compact text of a document. -/
def compact (j : Json) : String := String.ofList j.chars

end Json

end RequestParams
