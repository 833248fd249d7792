import RequestParams.Json
import RequestParams.Value

/-!
# Parts of values and of documents

Lists and mappings nest to any depth. A part of a value is the value itself or a part of one of its
items or fields, and likewise for a document. This file states the two relations, the induction that
goes with them, and how the parts of a container come from those of its members.
-/

namespace RequestParams

namespace Value

/-- A value found inside another one at any depth, or that value itself. -/
inductive IsPart (part : Value) : Value → Prop
  /-- The value itself. -/
  | whole : IsPart part part
  /-- A part of an item of a list. -/
  | item {items : List Value} {item : Value} (item_mem : item ∈ items)
      (inside : IsPart part item) : IsPart part (.list items)
  /-- A part of the value of a field. -/
  | field {fields : List (String × Value)} {field : String × Value} (field_mem : field ∈ fields)
      (inside : IsPart part field.2) : IsPart part (.dict fields)

/-- Induction over values: a container has the property if each of its members has. -/
@[induction_eliminator]
theorem inductionOnParts {motive : Value → Prop} (null : motive .null)
    (bool : ∀ b, motive (.bool b)) (int : ∀ n, motive (.int n)) (float : ∀ x, motive (.float x))
    (str : ∀ s, motive (.str s))
    (list : ∀ items, (∀ item ∈ items, motive item) → motive (.list items))
    (dict : ∀ fields, (∀ field ∈ fields, motive field.2) → motive (.dict fields))
    (files : ∀ attachments, motive (.files attachments)) : ∀ value, motive value := fun value =>
  Value.rec (motive_1 := motive) (motive_2 := fun items => ∀ item ∈ items, motive item)
    (motive_3 := fun fields => ∀ field ∈ fields, motive field.2)
    (motive_4 := fun field => motive field.2)
    null bool int float str list dict files
    (fun _ none => nomatch none)
    (fun _ _ first rest => List.forall_mem_cons.mpr ⟨first, rest⟩)
    (fun _ none => nomatch none)
    (fun _ _ first rest => List.forall_mem_cons.mpr ⟨first, rest⟩)
    (fun _ _ holds => holds)
    value

/-- A value without uploads and without infinities and NaNs at any depth. -/
structure IsPlain (value : Value) : Prop where
  /-- No part is an upload. -/
  no_files : ∀ attachments, ¬(Value.files attachments).IsPart value
  /-- Each part that is a double is finite. -/
  floats_finite : ∀ x, (Value.float x).IsPart value → x.isFinite = true

/-- Neither a container nor an upload nor a double. -/
def isAtom : Value → Bool
  | null | bool _ | int _ | str _ => true
  | float _ | list _ | dict _ | files _ => false

theorem isPlain_of_isAtom {value : Value} (atom : value.isAtom = true) : value.IsPlain := by
  refine ⟨fun attachments inside => ?_, fun x inside => ?_⟩ <;> cases inside <;> cases atom

theorem isPlain_float_iff (x : Binary64) : (float x).IsPlain ↔ x.isFinite = true := by
  constructor
  · intro plain
    exact plain.floats_finite x .whole
  · intro finite
    refine ⟨fun _ inside => (nomatch inside), fun y inside => ?_⟩
    cases inside
    exact finite

theorem not_isPlain_files (attachments : List Attachment) : ¬(files attachments).IsPlain :=
  fun plain => plain.no_files attachments .whole

theorem isPlain_list_iff (items : List Value) :
    (list items).IsPlain ↔ ∀ item ∈ items, item.IsPlain := by
  constructor
  · intro plain item item_mem
    exact ⟨fun attachments inside => plain.no_files attachments (.item item_mem inside),
      fun x inside => plain.floats_finite x (.item item_mem inside)⟩
  · intro items_plain
    refine ⟨fun attachments inside => ?_, fun x inside => ?_⟩
    · cases inside with
      | item item_mem inside => exact (items_plain _ item_mem).no_files attachments inside
    · cases inside with
      | item item_mem inside => exact (items_plain _ item_mem).floats_finite x inside

theorem isPlain_dict_iff (fields : List (String × Value)) :
    (dict fields).IsPlain ↔ ∀ field ∈ fields, field.2.IsPlain := by
  constructor
  · intro plain field field_mem
    exact ⟨fun attachments inside => plain.no_files attachments (.field field_mem inside),
      fun x inside => plain.floats_finite x (.field field_mem inside)⟩
  · intro fields_plain
    refine ⟨fun attachments inside => ?_, fun x inside => ?_⟩
    · cases inside with
      | field field_mem inside => exact (fields_plain _ field_mem).no_files attachments inside
    · cases inside with
      | field field_mem inside => exact (fields_plain _ field_mem).floats_finite x inside

end Value

namespace Json

/-- A document found inside another one at any depth, or that document itself. -/
inductive IsPart (part : Json) : Json → Prop
  /-- The document itself. -/
  | whole : IsPart part part
  /-- A part of an item of an array. -/
  | item {items : List Json} {item : Json} (item_mem : item ∈ items)
      (inside : IsPart part item) : IsPart part (.array items)
  /-- A part of the value of a member of an object. -/
  | member {members : List (String × Json)} {member : String × Json} (member_mem : member ∈ members)
      (inside : IsPart part member.2) : IsPart part (.object members)

/-- Induction over documents: a container has the property if each of its members has. -/
@[induction_eliminator]
theorem inductionOnParts {motive : Json → Prop} (null : motive .null)
    (bool : ∀ b, motive (.bool b)) (number : ∀ n, motive (.number n))
    (string : ∀ s, motive (.string s))
    (array : ∀ items, (∀ item ∈ items, motive item) → motive (.array items))
    (object : ∀ members, (∀ member ∈ members, motive member.2) → motive (.object members)) :
    ∀ document, motive document := fun document =>
  Json.rec (motive_1 := motive) (motive_2 := fun items => ∀ item ∈ items, motive item)
    (motive_3 := fun members => ∀ member ∈ members, motive member.2)
    (motive_4 := fun member => motive member.2)
    null bool number string array object
    (fun _ none => nomatch none)
    (fun _ _ first rest => List.forall_mem_cons.mpr ⟨first, rest⟩)
    (fun _ none => nomatch none)
    (fun _ _ first rest => List.forall_mem_cons.mpr ⟨first, rest⟩)
    (fun _ _ holds => holds)
    document

/-- A document whose unsigned integers, at any depth, fit in 64 signed bits. -/
def FitsSigned (document : Json) : Prop :=
  ∀ n : UInt64, (Json.number (.unsigned n)).IsPart document → n.toNat ≤ Int64.maxValue.toInt

theorem fitsSigned_number_unsigned_iff (n : UInt64) :
    (number (.unsigned n)).FitsSigned ↔ n.toNat ≤ Int64.maxValue.toInt := by
  constructor
  · intro fits
    exact fits n .whole
  · intro fits m inside
    cases inside
    exact fits

theorem fitsSigned_array_iff (items : List Json) :
    (array items).FitsSigned ↔ ∀ item ∈ items, item.FitsSigned := by
  constructor
  · intro fits item item_mem n inside
    exact fits n (.item item_mem inside)
  · intro items_fit n inside
    cases inside with
    | item item_mem inside => exact items_fit _ item_mem n inside

theorem fitsSigned_object_iff (members : List (String × Json)) :
    (object members).FitsSigned ↔ ∀ member ∈ members, member.2.FitsSigned := by
  constructor
  · intro fits member member_mem n inside
    exact fits n (.member member_mem inside)
  · intro members_fit n inside
    cases inside with
    | member member_mem inside => exact members_fit _ member_mem n inside

end Json

end RequestParams
