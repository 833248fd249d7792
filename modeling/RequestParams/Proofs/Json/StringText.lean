import RequestParams.Json.Printer
import RequestParams.Json.Reader

/-!
# JSON strings read back

A text that is written as a JSON string is read as that text, whatever characters it is made of and
whatever follows it. Each character is written as itself, as a letter after a backslash or by its
number, and is read as one unit that stands for it. So the first quote that is read as one is the
quote behind the text, and no text can end its string early.
-/

namespace RequestParams

/-! ## Units of a string -/

namespace StringUnit

/-- The unit is read as the character, whatever units follow it. -/
def StandsFor (unit : StringUnit) (c : Char) : Prop :=
  ∀ units, characters? (unit :: units) = (characters? units).map (c :: ·)

theorem standsFor_char (c : Char) : (char c).StandsFor c := fun _ => rfl

/-- A character below the surrogates has one UTF-16 unit, its number. -/
theorem standsFor_utf16 {c : Char} (below : c.toNat < 0xD800) : (utf16 c.toNat).StandsFor c := by
  intro units
  have not_trailing : isTrailing c.toNat = false := by
    rw [isTrailing, Bool.and_eq_false_iff, decide_eq_false_iff_not]
    omega
  have not_leading : isLeading c.toNat = false := by
    rw [isLeading, Bool.and_eq_false_iff, decide_eq_false_iff_not]
    omega
  rw [characters?.eq_def]
  simp only [not_trailing, not_leading, Char.ofNat_toNat]
  rfl

end StringUnit

namespace JsonToken

open Json (escapeChar stringChars)

section Units

variable (rest : List Char)

theorem takeString?_letter {letter c : Char} (escape : escaped? letter = some c) :
    takeString? ('\\' :: letter :: rest) =
      (takeString? rest).map (Prod.map (.char c :: ·) id) := by
  have not_number : letter ≠ 'u' := by
    rintro rfl
    cases escape
  rw [takeString?]
  · rw [escape]
    cases takeString? rest <;> rfl
  · rintro a b c d tail rfl
    exact fun _ => not_number rfl

theorem takeString?_number {a b c d : Char} {n : Nat} (unit : hexUnit? a b c d = some n) :
    takeString? ('\\' :: 'u' :: a :: b :: c :: d :: rest) =
      (takeString? rest).map (Prod.map (.utf16 n :: ·) id) := by
  rw [takeString?, unit]
  cases takeString? rest <;> rfl

theorem takeString?_plain {c : Char} (not_quote : c ≠ '"') (not_escape : c ≠ '\\')
    (not_control : ¬c.toNat < 0x20) :
    takeString? (c :: rest) = (takeString? rest).map (Prod.map (.char c :: ·) id) := by
  rw [takeString?]
  · rw [if_neg not_control]
    cases takeString? rest <;> rfl
  · exact not_quote
  · rintro a b c d tail rfl
    exact fun _ => not_escape rfl
  · rintro letter tail rfl
    exact fun _ => not_escape rfl

end Units

theorem hexUnit?_lastHexDigits {n : Nat} (control : n < 0x20) :
    hexUnit? '0' '0' (Nat.digitChar (n / 16)) (Nat.digitChar (n % 16)) = some n := by
  revert n
  decide

/-- What a unit of a string is written as: a character as it is, a letter after a backslash, or four
hexadecimal digits. -/
inductive WritesUnit : List Char → StringUnit → Prop
  | plain {c : Char} (not_quote : c ≠ '"') (not_escape : c ≠ '\\')
      (not_control : ¬c.toNat < 0x20) : WritesUnit [c] (.char c)
  | letter {letter c : Char} (escape : escaped? letter = some c) :
      WritesUnit ['\\', letter] (.char c)
  | number {a b c d : Char} {n : Nat} (unit : hexUnit? a b c d = some n) :
      WritesUnit ['\\', 'u', a, b, c, d] (.utf16 n)

/-- What stands between the quotes of a string. -/
inductive WritesUnits : List Char → List StringUnit → Prop
  | nil : WritesUnits [] []
  | cons {s t : List Char} {unit : StringUnit} {units : List StringUnit}
      (first : WritesUnit s unit) (others : WritesUnits t units) :
      WritesUnits (s ++ t) (unit :: units)

/-- A string with its quotes. -/
def WritesString (s : List Char) (units : List StringUnit) : Prop :=
  ∃ inside, WritesUnits inside units ∧ s = '"' :: inside ++ ['"']

theorem WritesUnit.takeString?_append {s : List Char} {unit : StringUnit}
    (written : WritesUnit s unit) (rest : List Char) :
    takeString? (s ++ rest) = (takeString? rest).map (Prod.map (unit :: ·) id) := by
  cases written with
  | plain not_quote not_escape not_control =>
      exact takeString?_plain rest not_quote not_escape not_control
  | letter escape => exact takeString?_letter rest escape
  | number unit => exact takeString?_number rest unit

/-- Units are read up to the quote behind them, whatever follows that quote. -/
theorem WritesUnits.takeString?_append {s : List Char} {units : List StringUnit}
    (written : WritesUnits s units) (rest : List Char) :
    takeString? (s ++ '"' :: rest) = some (units, rest) := by
  induction written with
  | nil => rw [List.nil_append, takeString?]
  | cons first _ induction =>
      rw [List.append_assoc, first.takeString?_append, induction]
      rfl

/-- What a character is written as is one unit, which stands for it. -/
theorem exists_writesUnit_escapeChar (c : Char) :
    ∃ unit : StringUnit, unit.StandsFor c ∧ WritesUnit (escapeChar c) unit := by
  unfold escapeChar
  split
  any_goals exact ⟨_, StringUnit.standsFor_char _, .letter rfl⟩
  -- The characters that have no letter of their own are left.
  rename_i not_quote not_escape _ _ _ _ _
  split
  · rename_i control
    exact ⟨_, StringUnit.standsFor_utf16 (by omega), .number (hexUnit?_lastHexDigits control)⟩
  · rename_i not_control
    exact ⟨_, StringUnit.standsFor_char c, .plain not_quote not_escape not_control⟩

theorem exists_writesUnits_flatMap_escapeChar (s : List Char) :
    ∃ units, StringUnit.characters? units = some s ∧ WritesUnits (s.flatMap escapeChar) units := by
  induction s with
  | nil => exact ⟨[], rfl, .nil⟩
  | cons c s induction =>
      obtain ⟨unit, stands_for, unit_written⟩ := exists_writesUnit_escapeChar c
      obtain ⟨units, units_read, units_written⟩ := induction
      exact ⟨unit :: units, by rw [stands_for, units_read, Option.map_some],
        .cons unit_written units_written⟩

/-- A text is written as a string of that text. -/
theorem exists_writesString_stringChars (s : String) :
    ∃ units, StringUnit.text? units = some s ∧ WritesString (stringChars s) units := by
  obtain ⟨units, read, written⟩ := exists_writesUnits_flatMap_escapeChar s.toList
  exact ⟨units, by rw [StringUnit.text?, read, Option.map_some, String.ofList_toList],
    _, written, rfl⟩

/-! ## Tokens -/

/-- The characters are read as these tokens, whatever follows them. -/
def ReadAs (written : List Char) (tokens : List JsonToken) : Prop :=
  ∀ rest, ofChars? (written ++ rest) = (ofChars? rest).map (tokens ++ ·)

theorem ReadAs.append {first second : List Char} {tokens others : List JsonToken}
    (first_read : ReadAs first tokens) (second_read : ReadAs second others) :
    ReadAs (first ++ second) (tokens ++ others) := by
  intro rest
  rw [List.append_assoc, first_read, second_read, Option.map_map]
  simp only [Function.comp_def, List.append_assoc]

theorem ofChars?_eq_of_append_nil {written : List Char} {tokens : List JsonToken}
    (read : ofChars? (written ++ []) = (ofChars? []).map (tokens ++ ·)) :
    ofChars? written = some tokens := by
  have at_end : ofChars? [] = some [] := by rw [ofChars?]
  rwa [List.append_nil, at_end, Option.map_some, List.append_nil] at read

theorem ReadAs.ofChars?_eq {written : List Char} {tokens : List JsonToken}
    (read : ReadAs written tokens) : ofChars? written = some tokens :=
  ofChars?_eq_of_append_nil (read [])

theorem readAs_mark {c : Char} {mark : JsonToken} (is_mark : mark? c = some mark) :
    ReadAs [c] [mark] := by
  have not_blank : ¬isBlank c = true := by
    unfold mark? at is_mark
    split at is_mark <;> first | decide | cases is_mark
  intro rest
  rw [List.singleton_append, ofChars?, if_neg not_blank]
  simp only [is_mark, List.singleton_append]

theorem ofChars?_of_takeScalar? {c : Char} {rest after : List Char} {token : JsonToken}
    (not_blank : ¬isBlank c = true) (no_mark : mark? c = none)
    (taken : takeScalar? (c :: rest) = some (token, after)) :
    ofChars? (c :: rest) = (ofChars? after).map (token :: ·) := by
  rw [ofChars?, if_neg not_blank]
  simp only [no_mark]
  split
  · rename_i nothing
    rw [taken] at nothing
    cases nothing
  · rename_i some_token
    rw [taken] at some_token
    cases some_token
    rfl

theorem WritesString.readAs {s : List Char} {units : List StringUnit}
    (written : WritesString s units) : ReadAs s [string units] := by
  obtain ⟨inside, inside_written, rfl⟩ := written
  intro rest
  rw [List.cons_append, List.cons_append, List.append_assoc, List.singleton_append]
  refine ofChars?_of_takeScalar? (by decide) rfl ?_
  rw [takeScalar?, inside_written.takeString?_append]
  rfl

/-- A text that is written as a string is read as one token, which has that text. -/
theorem exists_readAs_stringChars (s : String) :
    ∃ units, StringUnit.text? units = some s ∧ ReadAs (stringChars s) [string units] := by
  obtain ⟨units, read, written⟩ := exists_writesString_stringChars s
  exact ⟨units, read, written.readAs⟩

end JsonToken

/-! ## Documents -/

namespace Json

/-- An object of one text is read back from its compact text. -/
theorem ofString?_compact_single (key text : String) :
    ofString? (object [(key, string text)]).compact = some (object [(key, string text)]) := by
  obtain ⟨keyUnits, key_eq, key_read⟩ := JsonToken.exists_readAs_stringChars key
  obtain ⟨textUnits, text_eq, text_read⟩ := JsonToken.exists_readAs_stringChars text
  have written : (object [(key, string text)]).chars =
      ['\x7b'] ++ (stringChars key ++ ([':'] ++ (stringChars text ++ ['\x7d']))) := by
    simp only [chars, memberChars, joinCommas, List.append_assoc, List.cons_append,
      List.nil_append]
  have tokens : JsonToken.ofChars? (object [(key, string text)]).chars =
      some [.openObject, .string keyUnits, .colon, .string textUnits, .closeObject] := by
    rw [written]
    apply JsonToken.ReadAs.ofChars?_eq
    exact (JsonToken.readAs_mark rfl).append (key_read.append ((JsonToken.readAs_mark rfl).append
      (text_read.append (JsonToken.readAs_mark rfl))))
  have outlined : Outline.ofChars? (object [(key, string text)]).chars =
      some (.object [(keyUnits, .string textUnits)]) := by
    rw [Outline.ofChars?, tokens]
    rfl
  have below_top : maxDepth = 126 + 1 := rfl
  rw [ofString?, compact, String.toList_ofList, outlined, Option.bind_some, below_top, ofOutline?]
  simp only [ofMembers?, ofOutline?, key_eq, text_eq]
  rfl

/-- Bytes of a text are read as the text is. -/
theorem ofBytes?_toUTF8 (s : String) : ofBytes? s.toUTF8.data.toList = ofString? s := by
  have decoded : String.fromUTF8? s.toUTF8 = some s := dif_pos s.isValidUTF8
  rw [ofBytes?, Array.toArray_toList, decoded, Option.bind_some]

end Json

end RequestParams
