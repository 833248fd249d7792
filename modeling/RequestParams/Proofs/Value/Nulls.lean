import RequestParams.Proofs.Lookup
import RequestParams.Proofs.Value.RoundTrip

/-!
# Where the document of a value is null

A document follows its value place by place, a list item by item and a mapping key by key. A double
without a JSON form is written as null, and nothing else is but null itself. Hence, where all
doubles of a value are finite, its document is null at the places at which the value is, and at no
others.
-/

namespace RequestParams

/-- A step from a container to one of its members. -/
inductive Step
  /-- To the item at a position. -/
  | index (position : Nat)
  /-- To the value under a key. -/
  | key (name : String)

/-- The part of a document at the end of a path. -/
def Json.at? : Json → List Step → Option Json
  | document, [] => some document
  | .array items, .index position :: path => items[position]?.bind fun item => item.at? path
  | .object members, .key name :: path => (members.lookup name).bind fun member => member.at? path
  | _, _ :: _ => none

namespace Value

/-- The part of a value at the end of a path. Uploads have no parts. -/
def at? : Value → List Step → Option Value
  | value, [] => some value
  | list items, .index position :: path => items[position]?.bind fun item => item.at? path
  | dict fields, .key name :: path => (fields.lookup name).bind fun field => field.at? path
  | _, _ :: _ => none

/-- Every double in the value, at any depth, is finite. -/
def FloatsFinite (value : Value) : Prop :=
  ∀ x, (Value.float x).IsPart value → x.isFinite = true

theorem FloatsFinite.item {items : List Value} (finite : (list items).FloatsFinite) {item : Value}
    (item_mem : item ∈ items) : item.FloatsFinite :=
  fun x inside => finite x (.item item_mem inside)

theorem FloatsFinite.field {fields : List (String × Value)} (finite : (dict fields).FloatsFinite)
    {field : String × Value} (field_mem : field ∈ fields) : field.2.FloatsFinite :=
  fun x inside => finite x (.field field_mem inside)

theorem floatsFinite_files (attachments : List Attachment) : (files attachments).FloatsFinite :=
  fun _ inside => nomatch inside

theorem toJson_eq_null_iff {value : Value} (finite : value.FloatsFinite) :
    value.toJson = .null ↔ value = .null := by
  cases value with
  | float x =>
      rw [toJson_float_of_isFinite (finite x .whole)]
      simp
  | null | bool _ | int _ | str _ | list _ | dict _ | files _ => simp [toJson]

/-- The metadata of an attachment are texts and a size, none of them null. -/
theorem at?_attachmentJson_ne_null (file : Attachment) (path : List Step) :
    (attachmentJson file).at? path ≠ some .null := by
  match path with
  | [] => simp [attachmentJson, Json.at?]
  | .index _ :: _ => simp [attachmentJson, Json.at?]
  | .key name :: path =>
      rw [attachmentJson, Json.at?]
      intro null
      obtain ⟨member, found, member_null⟩ := Option.bind_eq_some_iff.mp null
      have member_mem := mem_of_lookup found
      have scalar : member = .string file.contentType ∨ member = .string file.filename ∨
          member = .number (.unsigned (UInt64.ofNat file.size)) := by
        simp only [List.mem_cons, Prod.mk.injEq, List.not_mem_nil, or_false] at member_mem
        rcases member_mem with ⟨-, rfl⟩ | ⟨-, rfl⟩ | ⟨-, rfl⟩ <;> simp
      rcases scalar with rfl | rfl | rfl <;> cases path <;> simp [Json.at?] at member_null

/-- Where all doubles are finite, the document is null exactly where the value is. -/
theorem at?_toJson_eq_null_iff {value : Value} (finite : value.FloatsFinite) (path : List Step) :
    value.toJson.at? path = some .null ↔ value.at? path = some .null := by
  induction path generalizing value with
  | nil =>
      simp only [Json.at?, at?, Option.some.injEq]
      exact toJson_eq_null_iff finite
  | cons step path induction =>
      cases value with
      | float x =>
          rw [toJson_float_of_isFinite (finite x .whole)]
          simp [Json.at?, at?]
      | null | bool _ | int _ | str _ => simp [toJson, Json.at?, at?]
      | list items =>
          rw [toJson, toJsonItems_eq_map]
          cases step with
          | key name => simp [Json.at?, at?]
          | index position =>
              rw [Json.at?, at?, List.getElem?_map]
              cases found : items[position]? with
              | none => simp
              | some item => exact induction (finite.item (List.mem_of_getElem? found))
      | dict fields =>
          rw [toJson, toJsonFields_eq_map]
          cases step with
          | index position => simp [Json.at?, at?]
          | key name =>
              rw [Json.at?, at?, lookup_map fun _ => toJson]
              cases found : fields.lookup name with
              | none => simp
              | some field => exact induction (finite.field (mem_of_lookup found))
      -- The document goes down to the metadata of each attachment, the value does not.
      | files attachments =>
          rw [toJson]
          cases step with
          | key name => simp [Json.at?, at?]
          | index position =>
              refine iff_of_false ?_ (by simp [at?])
              rw [Json.at?, List.getElem?_map]
              cases attachments[position]? with
              | none => simp
              | some file => exact at?_attachmentJson_ne_null file path

end Value

end RequestParams
