import RequestParams.Json.Token
import RequestParams.Pattern.CharClass
import RequestParams.Pattern.Expr

/-!
# Single elements of patterns

Flags, escapes and the other elements of a pattern that stand for one character or one assertion.
In verbose mode blanks and comments between the parts of a pattern do not count.
-/

namespace RequestParams.Pattern

open Text

/-- Modes of reading, set by flags inside a pattern. -/
structure Flags where
  /-- Letters match in either case. -/
  caseless : Bool := false
  /-- Lines have starts and ends of their own. -/
  multiline : Bool := false
  /-- A dot matches the end of a line. -/
  dotAll : Bool := false
  /-- Classes are those of Unicode. -/
  unicode : Bool := true
  /-- A carriage return ends a line. -/
  crlf : Bool := false
  /-- Blanks and comments do not count. -/
  verbose : Bool := false

/-- Leaves out blanks and comments; `comment` tells whether a comment has begun. -/
def skipComments : Bool → List Char → List Char
  | _, [] => []
  | true, c :: rest => if c = '\n' then skipComments false rest else skipComments true rest
  | false, c :: rest =>
    if isBlank c then skipComments false rest
    else if c = '#' then skipComments true rest
    else c :: rest

namespace Flags

/-- Leaves out what does not count in verbose mode. -/
def skip (flags : Flags) (s : List Char) : List Char :=
  if flags.verbose then skipComments false s else s

/-- Whether classes range over bytes. -/
def ascii (flags : Flags) : Bool := !flags.unicode

/-- Sets the mode of a letter. The letter `U` only exchanges greedy and lazy repetition, which does
not change whether a text matches. -/
def set? (flags : Flags) (letter : Char) (value : Bool) : Option Flags :=
  match letter with
  | 'i' => some { flags with caseless := value }
  | 'm' => some { flags with multiline := value }
  | 's' => some { flags with dotAll := value }
  | 'u' => some { flags with unicode := value }
  | 'R' => some { flags with crlf := value }
  | 'x' => some { flags with verbose := value }
  | 'U' => some flags
  | _ => none

/-- Sets the modes of flag letters, those after a minus to false. A letter or a minus may occur once
only, and a letter must follow the minus. -/
def setAll? (flags : Flags) (value : Bool) (seen : List Char) : List Char → Option Flags
  | [] => if seen.head? = some '-' then none else some flags
  | c :: rest =>
    if c ∈ seen then none
    else if c = '-' then setAll? flags false (c :: seen) rest
    else (flags.set? c value).bind fun flags => setAll? flags value (c :: seen) rest

end Flags

/-- An element of a pattern that stands by itself. -/
inductive Primitive
  /-- A character; `byte` tells that it is written with two hexadecimal digits. -/
  | literal (c : Char) (byte : Bool)
  /-- A class with its cost. -/
  | cls (s : CharClass) (cost : Nat)
  /-- An assertion. -/
  | look (condition : Assertion)

/-- Characters with a meaning of their own outside of classes or inside. -/
def metaCharacters : List Char := "\\.+*?()|[]\x7b\x7d^$#&-~".toList

/-- ASCII characters that an escape makes literal: all but letters, digits and angles. -/
def isEscapable (c : Char) : Bool :=
  metaCharacters.contains c || (c.toNat < 128 && !c.isAlphanum && c != '<' && c != '>')

/-- The number of hexadecimal digits, if it is that of a character. -/
def hexChar? (digits : List Char) : Option Char := do
  let values ← digits.mapM JsonToken.hexValue?
  let n := values.foldl (fun n digit => 16 * n + digit) 0
  if !digits.isEmpty && n.isValidChar then some (Char.ofNat n) else none

/-- Takes a fixed number of characters, with skipped ones between them. -/
def takeFixed? (flags : Flags) : Nat → List Char → Option (List Char × List Char)
  | 0, s => some ([], s)
  | _ + 1, [] => none
  | n + 1, c :: rest =>
    (takeFixed? flags n (flags.skip rest)).map fun (taken, rest) => (c :: taken, rest)

/-- Takes the characters up to a closing brace, with skipped ones between them. -/
def takeBraced? (flags : Flags) (s : List Char) : Option (List Char × List Char) :=
  match s.span (· != '\x7d') with
  | (_, []) => none
  | (inner, _ :: rest) =>
    some (if flags.verbose then visible false inner else inner, rest)
where
  /-- The characters outside blanks and comments. -/
  visible : Bool → List Char → List Char
    | _, [] => []
    | true, c :: rest => visible (c != '\n') rest
    | false, c :: rest =>
      if isBlank c then visible false rest
      else if c = '#' then visible true rest
      else c :: visible false rest

/-- Reads the digits of a hexadecimal escape, in braces or of fixed number. -/
def takeHex? (flags : Flags) (count : Nat) (s : List Char) : Option (Primitive × List Char) :=
  match flags.skip s with
  | '\x7b' :: rest => do
    let (digits, rest) ← takeBraced? flags rest
    return (.literal (← hexChar? digits) false, flags.skip rest)
  | rest => do
    let (digits, rest) ← takeFixed? flags count rest
    return (.literal (← hexChar? digits) (count == 2), rest)

/-- Splits at the first sign between a property and its value: the name, whether the sign is a
denial, and the value. -/
def splitProperty (name : List Char) : Option (List Char × Bool × List Char) :=
  match denial name with
  | some (property, value) => some (property, true, value)
  | none => (cut ':' name).orElse fun _ => cut '=' name
where
  /-- Splits at the first exclamation mark that an equals sign follows. -/
  denial : List Char → Option (List Char × List Char)
    | '!' :: '=' :: rest => some ([], rest)
    | c :: rest => (denial rest).map fun (before, after) => (c :: before, after)
    | [] => none
  /-- Splits at the first occurrence of a sign. -/
  cut (sign : Char) (name : List Char) : Option (List Char × Bool × List Char) :=
    match name.span (· != sign) with
    | (_, []) => none
    | (before, _ :: after) => some (before, false, after)

/-- The class of a property name with an optional value. -/
def propertyClass? (name : List Char) : Option CharClass :=
  match splitProperty name with
  | some (property, denied, value) =>
    (CharClass.ofNameValue? property value).map fun s => if denied then s.complement false else s
  | none => CharClass.ofName? name

/-- Cost of a class of a property. -/
def propertyCost : Nat := 800

/-- Reads a property after its letter; the class is folded before it is denied. -/
def takeProperty? (flags : Flags) (denied : Bool) (s : List Char) :
    Option (Primitive × List Char) := do
  let (name, rest) ← match flags.skip s with
    | [] | '\\' :: _ => none
    | '\x7b' :: rest => takeBraced? flags rest
    | c :: rest => some ([c], rest)
  if flags.ascii then none
  let s ← propertyClass? name
  let s := if flags.caseless then s.folded false else s
  return (.cls (if denied then s.complement false else s) propertyCost, rest)

/-- Cost of a shorthand class: the more ranges it has, the more. -/
def shorthandCost (flags : Flags) (letter : Char) : Nat :=
  if flags.ascii then 3
  else match letter with
    | 'w' | 'W' => 1572
    | 'd' => 162
    | 'D' => 401
    | 's' => 21
    | _ => 60

/-- The class of a shorthand letter, a capital denying it. A denied class needs all characters. -/
def shorthand? (flags : Flags) (letter : Char) : Option Primitive := do
  let small := letter.toLower
  let s ← CharClass.shorthand? flags.ascii small
  if letter = small then return .cls s (shorthandCost flags letter)
  else if flags.ascii then none
  else return .cls (s.complement false) (shorthandCost flags letter)

/-- Whether a character may occur in the name of a word assertion. -/
def isWordAssertionChar (c : Char) : Bool := c.isAlpha || c == '-'

/-- Reads what follows the letter of a word boundary: an assertion may be named in braces. -/
def takeBoundary? (flags : Flags) (s : List Char) : Option (Primitive × List Char) :=
  let word := CharClass.word flags.ascii
  let plain := some (Primitive.look (.wordBoundary word), s)
  match s with
  | '\x7b' :: inside =>
    match flags.skip inside with
    | [] => none
    | c :: rest =>
      if !isWordAssertionChar c then plain
      else
        match takeBraced? flags (c :: rest) with
        | none => none
        | some (name, rest) =>
          match String.ofList name with
          | "start" => some (.look (.wordStart word), rest)
          | "end" => some (.look (.wordEnd word), rest)
          | "start-half" => some (.look (.wordStartHalf word), rest)
          | "end-half" => some (.look (.wordEndHalf word), rest)
          | _ => none
  | _ => plain

/-- Reads the element after a backslash. -/
def takeEscape? (flags : Flags) (s : List Char) : Option (Primitive × List Char) :=
  let word := CharClass.word flags.ascii
  match s with
  | [] => none
  | c :: rest =>
    if isEscapable c then some (.literal c false, rest)
    else
      match c with
      | 'x' => takeHex? flags 2 rest
      | 'u' => takeHex? flags 4 rest
      | 'U' => takeHex? flags 8 rest
      | 'p' => takeProperty? flags false rest
      | 'P' => takeProperty? flags true rest
      | 'a' => some (.literal '\x07' false, rest)
      | 'f' => some (.literal '\x0c' false, rest)
      | 't' => some (.literal '\t' false, rest)
      | 'n' => some (.literal '\n' false, rest)
      | 'r' => some (.literal '\r' false, rest)
      | 'v' => some (.literal '\x0b' false, rest)
      | 'A' => some (.look .textStart, rest)
      | 'z' => some (.look .textEnd, rest)
      | 'b' => takeBoundary? flags rest
      | 'B' => some (.look (.noWordBoundary word), rest)
      | '<' => some (.look (.wordStart word), rest)
      | '>' => some (.look (.wordEnd word), rest)
      | _ => (shorthand? flags c).map fun element => (element, rest)

end RequestParams.Pattern
