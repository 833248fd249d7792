import RequestParams.Json.Numeral

/-!
# Tokens of JSON text

JSON text is cut into marks, words, numbers and strings. Strings keep their escaped UTF-16 units
apart, so that the choice between a pair of surrogates and a lone one is left to the reader.
-/

namespace RequestParams

/-- A unit of a string as written. -/
inductive StringUnit
  /-- A character that stands for itself or has a one-letter escape. -/
  | char (c : Char)
  /-- A UTF-16 unit given by four hexadecimal digits. -/
  | utf16 (n : Nat)
deriving DecidableEq, Repr

/-- A token of JSON text. -/
inductive JsonToken
  | openArray
  | closeArray
  | openObject
  | closeObject
  | comma
  | colon
  | null
  | bool (b : Bool)
  | number (n : Numeral)
  | string (units : List StringUnit)
deriving DecidableEq, Repr

namespace JsonToken

/-- The blanks of JSON. -/
def isBlank (c : Char) : Bool := c == ' ' || c == '\t' || c == '\n' || c == '\r'

/-- The tokens of one character. -/
def mark? (c : Char) : Option JsonToken :=
  match c with
  | '[' => some openArray
  | ']' => some closeArray
  | '\x7b' => some openObject
  | '\x7d' => some closeObject
  | ',' => some comma
  | ':' => some colon
  | _ => none

/-- The value of a hexadecimal digit. -/
def hexValue? (c : Char) : Option Nat :=
  if '0' ≤ c ∧ c ≤ '9' then some (c.toNat - '0'.toNat)
  else if 'a' ≤ c ∧ c ≤ 'f' then some (c.toNat - 'a'.toNat + 10)
  else if 'A' ≤ c ∧ c ≤ 'F' then some (c.toNat - 'A'.toNat + 10)
  else none

/-- The number of four hexadecimal digits. -/
def hexUnit? (a b c d : Char) : Option Nat := do
  return 4096 * (← hexValue? a) + 256 * (← hexValue? b) + 16 * (← hexValue? c) + (← hexValue? d)

/-- The character of a one-letter escape. -/
def escaped? (c : Char) : Option Char :=
  match c with
  | '"' => some '"'
  | '\\' => some '\\'
  | '/' => some '/'
  | 'b' => some '\x08'
  | 'f' => some '\x0c'
  | 'n' => some '\n'
  | 'r' => some '\r'
  | 't' => some '\t'
  | _ => none

/-- The units of a string up to its closing quote, and the text after it. -/
def takeString? : List Char → Option (List StringUnit × List Char)
  | [] => none
  | '"' :: rest => some ([], rest)
  | '\\' :: 'u' :: a :: b :: c :: d :: rest => do
    let n ← hexUnit? a b c d
    let (units, rest) ← takeString? rest
    return (.utf16 n :: units, rest)
  | '\\' :: letter :: rest => do
    let c ← escaped? letter
    let (units, rest) ← takeString? rest
    return (.char c :: units, rest)
  | c :: rest =>
    if c.toNat < 0x20 then none
    else do
      let (units, rest) ← takeString? rest
      return (.char c :: units, rest)

/-- Takes a word, a number or a string off the front of a text. -/
def takeScalar? (s : List Char) : Option (JsonToken × List Char) :=
  match s with
  | '"' :: rest => (takeString? rest).map fun (units, rest) => (string units, rest)
  | 'n' :: 'u' :: 'l' :: 'l' :: rest => some (null, rest)
  | 't' :: 'r' :: 'u' :: 'e' :: rest => some (bool true, rest)
  | 'f' :: 'a' :: 'l' :: 's' :: 'e' :: rest => some (bool false, rest)
  | rest => (Numeral.take? rest).map fun (n, rest) => (number n, rest)

/-- A string ends at its quote, or it goes on with a unit and is a string again after it. -/
theorem quote_or_unit_of_takeString? {s rest : List Char} {units : List StringUnit}
    (taken : takeString? s = some (units, rest)) :
    s = '"' :: rest ∧ units = [] ∨
      ∃ unit more after, units = unit :: more ∧ after.length < s.length ∧
        takeString? after = some (more, rest) := by
  have of_unit {unit : StringUnit} {after : List Char} (shorter : after.length < s.length)
      (taken : (do let (more, rest) ← takeString? after; return (unit :: more, rest)) =
        some (units, rest)) :
      s = '"' :: rest ∧ units = [] ∨
        ∃ unit more after, units = unit :: more ∧ after.length < s.length ∧
          takeString? after = some (more, rest) := by
    obtain ⟨⟨more, _⟩, after_taken, taken⟩ := Option.bind_eq_some_iff.mp taken
    obtain ⟨rfl, rfl⟩ := Prod.mk.inj (Option.some.inj taken)
    exact .inr ⟨unit, more, after, rfl, shorter, after_taken⟩
  unfold takeString? at taken
  -- The end of the text, the closing quote, a number of four digits, a letter, and a character.
  split at taken
  · cases taken
  · obtain ⟨rfl, rfl⟩ := Prod.mk.inj (Option.some.inj taken)
    exact .inl ⟨rfl, rfl⟩
  · obtain ⟨n, -, taken⟩ := Option.bind_eq_some_iff.mp taken
    exact of_unit (by simp only [List.length_cons]; omega) taken
  · obtain ⟨c, -, taken⟩ := Option.bind_eq_some_iff.mp taken
    exact of_unit (by simp only [List.length_cons]; omega) taken
  · split at taken
    · cases taken
    · exact of_unit (Nat.lt_succ_self _) taken

theorem length_of_takeString? {s rest : List Char} {units : List StringUnit}
    (taken : takeString? s = some (units, rest)) : rest.length < s.length := by
  induction units generalizing s with
  | nil =>
      obtain ⟨rfl, -⟩ | ⟨_, _, _, units_eq, -⟩ := quote_or_unit_of_takeString? taken
      · exact Nat.lt_succ_self _
      · cases units_eq
  | cons unit units induction =>
      obtain ⟨-, units_eq⟩ | ⟨_, more, after, units_eq, shorter, after_taken⟩ :=
        quote_or_unit_of_takeString? taken
      · cases units_eq
      · obtain ⟨-, rfl⟩ := List.cons.inj units_eq
        exact Nat.lt_trans (induction after_taken) shorter

theorem length_of_takeScalar? {s rest : List Char} {t : JsonToken}
    (taken : takeScalar? s = some (t, rest)) : rest.length < s.length := by
  have of_word {word : JsonToken} {after : List Char} (shorter : after.length < s.length)
      (taken : some (word, after) = some (t, rest)) : rest.length < s.length := by
    obtain ⟨-, rfl⟩ := Prod.mk.inj (Option.some.inj taken)
    exact shorter
  unfold takeScalar? at taken
  -- A string, the three words, and a number.
  split at taken
  · obtain ⟨⟨units, after⟩, string_taken, pair_eq⟩ := Option.map_eq_some_iff.mp taken
    obtain ⟨-, rfl⟩ := Prod.mk.inj pair_eq
    exact Nat.lt_succ_of_lt (length_of_takeString? string_taken)
  · exact of_word (by simp only [List.length_cons]; omega) taken
  · exact of_word (by simp only [List.length_cons]; omega) taken
  · exact of_word (by simp only [List.length_cons]; omega) taken
  · obtain ⟨⟨n, after⟩, number_taken, pair_eq⟩ := Option.map_eq_some_iff.mp taken
    obtain ⟨-, rfl⟩ := Prod.mk.inj pair_eq
    exact Numeral.length_of_take? number_taken

/-- The tokens of a text, blanks between them left out; none if a part of it is no token. -/
def ofChars? (s : List Char) : Option (List JsonToken) :=
  match s with
  | [] => some []
  | c :: rest =>
    if isBlank c then ofChars? rest
    else
      match mark? c with
      | some t => (ofChars? rest).map (t :: ·)
      | none =>
        match h : takeScalar? (c :: rest) with
        | none => none
        | some (t, after) =>
          have : after.length < (c :: rest).length := length_of_takeScalar? h
          (ofChars? after).map (t :: ·)
termination_by s.length
decreasing_by all_goals simp only [List.length_cons] at *; omega

end JsonToken

end RequestParams
