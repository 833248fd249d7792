import RequestParams.Config.Reader
import RequestParams.Proofs.Json.Grammar

/-!
# Partial documents of a configuration

The document of a configuration is an object of three members. Members of it may be left out, put in
another order and mixed with members of other names, whatever their values: what is read is the
configuration with the settings that are kept and the others at their defaults.
-/

namespace RequestParams

open JsonToken (Padding)
open Outline (WrittenMember)

namespace Config

/-! ## Settings -/

/-- The settings of a configuration. -/
inductive Setting
  | failureStatus
  | errorKey
  | logFailures
deriving DecidableEq

namespace Setting

/-- The name of a setting in a document. -/
def name : Setting → String
  | failureStatus => "failure_status"
  | errorKey => "error_key"
  | logFailures => "log_failures"

/-- The text of the value of a setting. -/
def valueChars (c : Config) : Setting → List Char
  | failureStatus => Nat.toDigits 10 c.failureStatus.toNat
  | errorKey => Json.stringChars c.errorKey
  | logFailures => (Json.bool c.logFailures).chars

/-- The text of a setting as a member of a document, with blanks around its name and its value. -/
def memberChars (c : Config) (setting : Setting) (aroundName aroundValue : Padding) : List Char :=
  aroundName.around (Json.stringChars setting.name) ++
    ':' :: aroundValue.around (setting.valueChars c)

end Setting

/-- The configuration with some of the settings, the others at their defaults. -/
def keeping (c : Config) (kept : List Setting) : Config where
  failureStatus := if .failureStatus ∈ kept then c.failureStatus else default.failureStatus
  errorKey := if .errorKey ∈ kept then c.errorKey else default.errorKey
  logFailures := if .logFailures ∈ kept then c.logFailures else default.logFailures

/-- What has been found after some of the settings. -/
def found (c : Config) (kept : List Setting) : Found where
  failureStatus := if .failureStatus ∈ kept then some c.failureStatus else none
  errorKey := if .errorKey ∈ kept then some c.errorKey else none
  logFailures := if .logFailures ∈ kept then some c.logFailures else none

theorem complete_found (c : Config) (kept : List Setting) :
    (c.found kept).complete = c.keeping kept := by
  have getD_ite {α : Type} (setting : Setting) (value fallback : α) :
      (if setting ∈ kept then some value else none).getD fallback =
        if setting ∈ kept then value else fallback :=
    apply_ite (Option.getD · fallback) _ _ _
  simp only [Found.complete, found, keeping, getD_ite]

theorem found_nil (c : Config) : c.found [] = {} := by
  simp [found]

theorem found_congr (c : Config) {kept others : List Setting}
    (same : ∀ setting, setting ∈ kept ↔ setting ∈ others) : c.found kept = c.found others := by
  simp only [found, same]

/-! ## Members -/

/-- The member is written, and adds these settings, and nothing else, to what has been found. -/
structure Adds (c : Config) (settings : List Setting) (member : WrittenMember) : Prop where
  key_written : Outline.WritesKey member.keyText member.key
  value_written : Outline.Writes member.valueText member.value
  added : ∀ earlier, (settings ++ earlier).Nodup → ∃ name,
    StringUnit.text? member.key = some name ∧
      (c.found earlier).add? name member.value = some (c.found (settings ++ earlier))

theorem readStatus?_ofNat (status : UInt16) :
    readStatus? (.number (Numeral.ofNat status.toNat)) = some status := by
  have status_lt : status.toNat < UInt16.size := status.toNat_lt
  have fits : status.toNat < UInt64.size := Nat.lt_trans status_lt (by decide)
  have kept : (UInt64.ofNat status.toNat).toNat = status.toNat := UInt64.toNat_ofNat_of_lt fits
  simp only [readStatus?, Numeral.number?_ofNat fits, kept]
  rw [if_pos status_lt, UInt16.ofNat_toNat]

/-- The value of a setting is written, and is read as that setting if it has not been found yet. -/
theorem exists_value_added (c : Config) (setting : Setting) :
    ∃ value, Outline.Writes (setting.valueChars c) value ∧
      ∀ earlier, setting ∉ earlier →
        (c.found earlier).add? setting.name value = some (c.found (setting :: earlier)) := by
  cases setting with
  | failureStatus =>
      refine ⟨_, .number (Numeral.writes_toDigits _), fun earlier fresh => ?_⟩
      simp [Found.add?, Setting.name, found, fresh, readStatus?_ofNat]
  | errorKey =>
      obtain ⟨units, text_eq, written⟩ := JsonToken.exists_writesString_stringChars c.errorKey
      refine ⟨_, .string written, fun earlier fresh => ?_⟩
      simp [Found.add?, Setting.name, found, fresh, readKey?, text_eq]
  | logFailures =>
      refine ⟨.bool c.logFailures, ?_, fun earlier fresh => ?_⟩
      · rw [Setting.valueChars]
        cases c.logFailures with
        | true => exact .true
        | false => exact .false
      · simp [Found.add?, Setting.name, found, fresh, readFlag?]

theorem exists_adds_setting (c : Config) (setting : Setting)
    (aroundName aroundValue : Padding) :
    ∃ member, member.chars = setting.memberChars c aroundName aroundValue ∧
      c.Adds [setting] member := by
  obtain ⟨key, key_eq, key_written⟩ := JsonToken.exists_writesString_stringChars setting.name
  obtain ⟨value, value_written, value_added⟩ := c.exists_value_added setting
  refine ⟨⟨_, key, _, value⟩, rfl, ⟨_, key_written, aroundName, rfl⟩,
    value_written.padded aroundValue, fun earlier distinct => ⟨_, key_eq, ?_⟩⟩
  exact value_added earlier (List.nodup_cons.mp distinct).1

/-- A member, however it is written, whose name is a text and no setting's. -/
structure IsOther (member : WrittenMember) : Prop where
  key_written : Outline.WritesKey member.keyText member.key
  value_written : Outline.Writes member.valueText member.value
  other_name : ∃ name, StringUnit.text? member.key = some name ∧
    ∀ setting : Setting, name ≠ setting.name

theorem add?_of_ne_name {name : String} (other : ∀ setting : Setting, name ≠ setting.name)
    (found : Found) (value : Outline) : found.add? name value = some found := by
  unfold Found.add?
  split
  · exact absurd rfl (other .failureStatus)
  · exact absurd rfl (other .errorKey)
  · exact absurd rfl (other .logFailures)
  · rfl

theorem adds_of_isOther (c : Config) {member : WrittenMember} (other : IsOther member) :
    c.Adds [] member := by
  obtain ⟨name, name_eq, other_name⟩ := other.other_name
  exact ⟨other.key_written, other.value_written, fun earlier _ =>
    ⟨name, name_eq, add?_of_ne_name other_name _ _⟩⟩

/-! ## Documents -/

/-- A member of a document: a setting as the configuration writes it, blanks apart, or any other
member. -/
inductive Part
  | kept (setting : Setting) (aroundName aroundValue : Padding)
  | inserted (member : WrittenMember)

namespace Part

/-- The settings of a part. -/
def settings : Part → List Setting
  | kept setting _ _ => [setting]
  | inserted _ => []

/-- The text of a part. -/
def chars (c : Config) : Part → List Char
  | kept setting aroundName aroundValue => setting.memberChars c aroundName aroundValue
  | inserted member => member.chars

end Part

/-- All settings as they are written, without blanks. -/
def allParts : List Part :=
  [.kept .failureStatus .none .none, .kept .errorKey .none .none, .kept .logFailures .none .none]

/-- The document of some parts, in the order of the parts. -/
def documentText (c : Config) (parts : List Part) : String :=
  String.ofList ('\x7b' :: (Json.joinCommas (parts.map (Part.chars c)) ++ ['\x7d']))

/-- A configuration is written as the document of its settings. -/
theorem jsonText_eq (c : Config) :
    c.jsonText = c.documentText allParts := by
  -- Rewriting the names in `jsonText` would compare its literals with each other.
  have joined (status key flag statusValue keyValue flagValue : List Char) :
      '\x7b' :: (status ++ [':']) ++ statusValue ++ ',' :: (key ++ [':']) ++ keyValue ++
          ',' :: (flag ++ [':']) ++ flagValue ++ ['\x7d'] =
        '\x7b' :: (Json.joinCommas [status ++ ':' :: statusValue, key ++ ':' :: keyValue,
          flag ++ ':' :: flagValue] ++ ['\x7d']) := by
    simp only [Json.joinCommas, List.append_assoc, List.cons_append, List.nil_append]
  simp only [documentText, allParts, List.map_cons, List.map_nil, Part.chars, Setting.memberChars,
    Padding.around_none]
  exact congrArg String.ofList (joined (Json.stringChars Setting.failureStatus.name)
    (Json.stringChars Setting.errorKey.name) (Json.stringChars Setting.logFailures.name) _ _ _)

theorem exists_adds_part (c : Config) {part : Part}
    (others : ∀ member, part = .inserted member → IsOther member) :
    ∃ member, member.chars = part.chars c ∧ c.Adds part.settings member := by
  cases part with
  | kept setting aroundName aroundValue =>
      exact c.exists_adds_setting setting aroundName aroundValue
  | inserted member => exact ⟨member, rfl, c.adds_of_isOther (others member rfl)⟩

/-- The members of a document add the settings of its parts to what has been found before. -/
theorem exists_adds_parts (c : Config) {parts : List Part}
    (others : ∀ member, .inserted member ∈ parts → IsOther member) :
    ∃ members : List WrittenMember, members.map WrittenMember.chars = parts.map (Part.chars c) ∧
      (∀ member ∈ members, Outline.WritesKey member.keyText member.key) ∧
      (∀ member ∈ members, Outline.Writes member.valueText member.value) ∧
      ∀ earlier, (parts.flatMap Part.settings ++ earlier).Nodup →
        (c.found earlier).addAll? (members.map WrittenMember.outline) =
          some (c.found (parts.flatMap Part.settings ++ earlier)) := by
  induction parts with
  | nil => exact ⟨[], rfl, by simp, by simp, fun earlier _ => rfl⟩
  | cons part parts induction =>
      obtain ⟨member, chars_eq, adds⟩ := c.exists_adds_part fun member part_eq =>
        others member (part_eq ▸ List.mem_cons_self)
      obtain ⟨members, rest_chars_eq, keys, values, added⟩ := induction fun member member_mem =>
        others member (List.mem_cons_of_mem part member_mem)
      refine ⟨member :: members, by rw [List.map_cons, List.map_cons, chars_eq, rest_chars_eq],
        List.forall_mem_cons.mpr ⟨adds.key_written, keys⟩,
        List.forall_mem_cons.mpr ⟨adds.value_written, values⟩, fun earlier distinct => ?_⟩
      rw [List.flatMap_cons, List.append_assoc] at distinct ⊢
      have moved : (part.settings ++ (parts.flatMap Part.settings ++ earlier)).Perm
          (parts.flatMap Part.settings ++ (part.settings ++ earlier)) :=
        List.perm_append_comm_assoc _ _ _
      have distinct_moved := moved.nodup_iff.mp distinct
      obtain ⟨name, name_eq, first_added⟩ :=
        adds.added earlier (List.nodup_append.mp distinct_moved).2.1
      have rest_added := added (part.settings ++ earlier) distinct_moved
      rw [List.map_cons, WrittenMember.outline, Found.addAll?, name_eq]
      simp only [bind, Option.bind_some, first_added, rest_added,
        c.found_congr fun setting => moved.mem_iff (a := setting)]

theorem ofJsonText?_documentText (c : Config) {parts : List Part}
    (distinct : (parts.flatMap Part.settings).Nodup)
    (others : ∀ member, .inserted member ∈ parts → IsOther member) :
    ofJsonText? (c.documentText parts) = some (c.keeping (parts.flatMap Part.settings)) := by
  obtain ⟨members, chars_eq, keys, values, added⟩ := c.exists_adds_parts others
  have written : Outline.Writes (c.documentText parts).toList
      (.object (members.map WrittenMember.outline)) := by
    rw [documentText, String.toList_ofList, ← chars_eq]
    exact Outline.writes_members keys values
  have added_all := added [] (by rwa [List.append_nil])
  rw [found_nil, List.append_nil] at added_all
  rw [ofJsonText?, Outline.ofChars?_of_writes written, Option.bind_some, ofOutline?, added_all,
    Option.map_some, complete_found]

/-- A configuration is written as the document of its settings, and is read back from it. A document
in which settings are left out, in any order and among any members of other names, is read as the
configuration with the settings that are kept and the others at their defaults. -/
theorem partial_documents_fill_in_defaults (c : Config) :
    c.jsonText = c.documentText allParts ∧
    ofJsonText? c.jsonText = some c ∧
    ∀ parts : List Part, (parts.flatMap Part.settings).Nodup →
      (∀ member, .inserted member ∈ parts → IsOther member) →
      ofJsonText? (c.documentText parts) = some (c.keeping (parts.flatMap Part.settings)) := by
  refine ⟨c.jsonText_eq, ?_, fun parts => c.ofJsonText?_documentText⟩
  rw [c.jsonText_eq, c.ofJsonText?_documentText]
  · rfl
  · decide
  · simp [allParts]

/-- A space before a value. -/
def spaceBefore : Padding :=
  ⟨[' '], [], by simp [JsonToken.IsBlanks, JsonToken.isBlank], JsonToken.isBlanks_nil⟩

/-- The text and the outline of a number beyond all doubles. -/
def farNumber : List Char × Outline :=
  (['1', 'e', '9', '9', '9'], .number ⟨false, ['1'], [], some (false, ['9', '9', '9'])⟩)

/-- The text and the outline of one half of a pair of surrogates. -/
def halfPair : List Char × Outline :=
  (['"', '\\', 'u', 'd', '8', '0', '0', '"'], .string [.utf16 0xD800])

/-- A member whose value is no document. -/
def unreadableMember : WrittenMember where
  keyText := ['"', 'x', '"']
  key := [.char 'x']
  valueText := '[' :: (Json.joinCommas ([farNumber, halfPair].map Prod.fst) ++ [']'])
  value := .array ([farNumber, halfPair].map Prod.snd)

theorem isOther_unreadableMember : IsOther unreadableMember where
  key_written :=
    ⟨_, ⟨['x'], .cons (.plain (by decide) (by decide) (by decide)) .nil, rfl⟩, .none, rfl⟩
  value_written := by
    have whole : Numeral.WholeText ['1'] :=
      ⟨List.cons_ne_nil _ _, List.all_eq_true.mp rfl,
        fun rest starts => (List.cons.inj starts).2.symm⟩
    have exponent : Numeral.ExponentText ['e', '9', '9', '9'] (some (false, ['9', '9', '9'])) :=
      .digits (.inl rfl) .none (List.cons_ne_nil _ _) (List.all_eq_true.mp rfl)
    have half : JsonToken.WritesUnits ['\\', 'u', 'd', '8', '0', '0'] [.utf16 0xD800] :=
      .cons (.number (by decide)) .nil
    refine .array (List.cons_ne_nil _ _) (List.forall_mem_cons.mpr ⟨?_, ?_⟩)
    · exact .number (.unsigned (.parts whole .none exponent))
    · exact List.forall_mem_singleton.mpr (.string ⟨_, half, rfl⟩)
  other_name := ⟨"x", rfl, fun setting => by cases setting <;> decide⟩

/-- A flag and a status are kept, behind a member that is not looked into. -/
theorem partial_documents_fill_in_defaults_unreadable :
    IsOther unreadableMember ∧
      ofJsonText?
          "\x7b\"x\":[1e999,\"\\ud800\"],\"log_failures\":false,\"failure_status\": 422\x7d" =
        some ⟨422, "error", false⟩ := by
  have read := (partial_documents_fill_in_defaults ⟨422, "message", false⟩).2.2
    [.inserted unreadableMember, .kept .logFailures .none .none,
      .kept .failureStatus .none spaceBefore]
    (by decide) (by simpa using isOther_unreadableMember)
  exact ⟨isOther_unreadableMember, read⟩

end Config

end RequestParams
