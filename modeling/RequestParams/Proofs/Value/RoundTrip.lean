import RequestParams.Proofs.Binary64.Finite
import RequestParams.Proofs.Value.Parts
import RequestParams.Value.Conversion

/-!
# Values and documents that survive conversion

A value comes back from its document exactly when it holds no upload, no infinity and no NaN at any
depth: an upload comes back as a list of its metadata, the others as null. A document comes back
from its value exactly when each unsigned integer in it fits in 64 signed bits: a larger one becomes
a double. Equality is that of trees, and of doubles bit by bit.
-/

namespace RequestParams

/-- The integers whose word read as a signed one is negative are those beyond the signed range. -/
theorem toInt64_neg_iff (n : UInt64) : n.toInt64 < 0 ↔ Int64.maxValue.toInt < n.toNat := by
  have bound : n.toNat < 18446744073709551616 := n.toNat_lt
  have word : n.toInt64.toInt = n.toBitVec.toInt := rfl
  have word_toNat : n.toBitVec.toNat = n.toNat := rfl
  have max_eq : Int64.maxValue.toInt = 9223372036854775807 := rfl
  have zero_eq : (0 : Int64).toInt = 0 := rfl
  rw [Int64.lt_iff_toInt_lt, word, BitVec.toInt_eq_toNat_cond, max_eq, zero_eq, word_toNat]
  split <;> omega

theorem map_eq_self_iff {α : Type} (f : α → α) (items : List α) :
    items.map f = items ↔ ∀ item ∈ items, f item = item := by
  have compared := @List.map_inj_left α α items f id
  rwa [List.map_id] at compared

namespace Value

/-! ## Conversion of containers, member by member -/

theorem ofJsonItems_eq_map (items : List Json) : ofJsonItems items = items.map ofJson := by
  induction items with
  | nil => rfl
  | cons item items induction => rw [ofJsonItems, induction, List.map_cons]

theorem ofJsonMembers_eq_map (members : List (String × Json)) :
    ofJsonMembers members = members.map fun member => (member.1, ofJson member.2) := by
  induction members with
  | nil => rfl
  | cons member members induction => rw [ofJsonMembers, induction, List.map_cons]

theorem toJsonItems_eq_map (items : List Value) : toJsonItems items = items.map toJson := by
  induction items with
  | nil => rfl
  | cons item items induction => rw [toJsonItems, induction, List.map_cons]

theorem toJsonFields_eq_map (fields : List (String × Value)) :
    toJsonFields fields = fields.map fun field => (field.1, field.2.toJson) := by
  induction fields with
  | nil => rfl
  | cons field fields induction => rw [toJsonFields, induction, List.map_cons]

/-! ## Numbers -/

theorem ofJsonNumber_ofInt64 (n : Int64) : ofJsonNumber (.ofInt64 n) = int n := by
  by_cases negative : n < 0
  · simp only [JsonNumber.ofInt64, dif_pos negative, ofJsonNumber]
  · have fits : n.toUInt64.toNat ≤ Int64.maxValue.toInt := by
      have word_eq := toInt64_neg_iff n.toUInt64
      rw [Int64.toInt64_toUInt64] at word_eq
      exact Int.not_lt.mp ((not_congr word_eq).mp negative)
    simp only [JsonNumber.ofInt64, dif_neg negative, ofJsonNumber, if_pos fits,
      Int64.toInt64_toUInt64]

theorem toJson_float_of_isFinite {x : Binary64} (finite : x.isFinite = true) :
    (float x).toJson = .number (.float x finite) := by
  simp only [toJson, JsonNumber.ofBinary64?, dif_pos finite, Option.map_some, Option.getD_some]

theorem toJson_float_of_not_isFinite {x : Binary64} (infinite : ¬x.isFinite = true) :
    (float x).toJson = .null := by
  simp only [toJson, JsonNumber.ofBinary64?, dif_neg infinite, Option.map_none, Option.getD_none]

theorem toJson_float_ne_unsigned (x : Binary64) (n : UInt64) :
    (float x).toJson ≠ .number (.unsigned n) := by
  by_cases finite : x.isFinite = true
  · rw [toJson_float_of_isFinite finite]
    simp
  · rw [toJson_float_of_not_isFinite finite]
    simp

theorem ofJson_toJson_float_iff (x : Binary64) :
    ofJson (float x).toJson = float x ↔ x.isFinite = true := by
  by_cases finite : x.isFinite = true
  · rw [toJson_float_of_isFinite finite]
    exact iff_of_true rfl finite
  · rw [toJson_float_of_not_isFinite finite]
    exact iff_of_false (by simp [ofJson]) finite

theorem toJson_ofJson_unsigned_iff (n : UInt64) :
    (ofJson (.number (.unsigned n))).toJson = .number (.unsigned n) ↔
      n.toNat ≤ Int64.maxValue.toInt := by
  by_cases fits : n.toNat ≤ Int64.maxValue.toInt
  · have nonnegative : ¬n.toInt64 < 0 := (not_congr (toInt64_neg_iff n)).mpr (Int.not_lt.mpr fits)
    refine iff_of_true ?_ fits
    simp only [ofJson, ofJsonNumber, if_pos fits, toJson, JsonNumber.ofInt64, dif_neg nonnegative,
      UInt64.toUInt64_toInt64]
  · refine iff_of_false ?_ fits
    simp only [ofJson, ofJsonNumber, if_neg fits]
    exact toJson_float_ne_unsigned _ n

/-! ## Values and documents of any depth -/

/-- A value comes back from its document exactly when it is plain. -/
theorem ofJson_toJson_iff (value : Value) : ofJson value.toJson = value ↔ value.IsPlain := by
  induction value with
  | null | bool _ | str _ => exact iff_of_true rfl (isPlain_of_isAtom rfl)
  | int n => exact iff_of_true (ofJsonNumber_ofInt64 n) (isPlain_of_isAtom rfl)
  | float x => rw [ofJson_toJson_float_iff, isPlain_float_iff]
  | list items induction =>
      rw [toJson, ofJson, toJsonItems_eq_map, ofJsonItems_eq_map, List.map_map, list.injEq,
        map_eq_self_iff, isPlain_list_iff]
      exact forall₂_congr induction
  | dict fields induction =>
      rw [toJson, ofJson, toJsonFields_eq_map, ofJsonMembers_eq_map, List.map_map, dict.injEq,
        map_eq_self_iff, isPlain_dict_iff]
      refine forall₂_congr fun field field_mem => ?_
      rw [← induction field field_mem]
      simp [Prod.ext_iff]
  -- Uploads become an array, and no array becomes an upload.
  | files attachments =>
      exact iff_of_false (by simp [toJson, ofJson]) (not_isPlain_files attachments)

/-- The value of a document is plain: integers beyond the signed range become finite doubles. -/
theorem isPlain_ofJson (document : Json) : (ofJson document).IsPlain := by
  induction document with
  | null | bool _ | string _ => exact isPlain_of_isAtom rfl
  | number n =>
      cases n with
      | unsigned n =>
          rw [ofJson, ofJsonNumber]
          split
          · exact isPlain_of_isAtom rfl
          · rw [isPlain_float_iff]
            exact Binary64.isFinite_ofNat n.toNat_lt (by decide)
      | negative n _ => exact isPlain_of_isAtom rfl
      | float x is_finite => exact (isPlain_float_iff x).mpr is_finite
  | array items induction =>
      rw [ofJson, ofJsonItems_eq_map, isPlain_list_iff]
      intro item item_mem
      obtain ⟨source, source_mem, rfl⟩ := List.mem_map.mp item_mem
      exact induction source source_mem
  | object members induction =>
      rw [ofJson, ofJsonMembers_eq_map, isPlain_dict_iff]
      intro field field_mem
      obtain ⟨source, source_mem, rfl⟩ := List.mem_map.mp field_mem
      exact induction source source_mem

end Value

namespace Json

/-- A document comes back from its value exactly when its unsigned integers fit in 64 signed
bits. -/
theorem toJson_ofJson_iff (document : Json) :
    (Value.ofJson document).toJson = document ↔ document.FitsSigned := by
  induction document with
  | null | bool _ | string _ => exact iff_of_true rfl fun _ inside => nomatch inside
  | number n =>
      cases n with
      | unsigned n => rw [Value.toJson_ofJson_unsigned_iff, fitsSigned_number_unsigned_iff]
      | negative n is_negative =>
          refine iff_of_true ?_ fun _ inside => nomatch inside
          simp only [Value.ofJson, Value.ofJsonNumber, Value.toJson, JsonNumber.ofInt64,
            dif_pos is_negative]
      | float x is_finite =>
          exact iff_of_true (Value.toJson_float_of_isFinite is_finite)
            fun _ inside => nomatch inside
  | array items induction =>
      rw [Value.ofJson, Value.toJson, Value.ofJsonItems_eq_map, Value.toJsonItems_eq_map,
        List.map_map, array.injEq, map_eq_self_iff, fitsSigned_array_iff]
      exact forall₂_congr induction
  | object members induction =>
      rw [Value.ofJson, Value.toJson, Value.ofJsonMembers_eq_map, Value.toJsonFields_eq_map,
        List.map_map, object.injEq, map_eq_self_iff, fitsSigned_object_iff]
      refine forall₂_congr fun member member_mem => ?_
      rw [← induction member member_mem]
      simp [Prod.ext_iff]

end Json

/-- A value comes back from its document, doubles bit by bit, exactly when no part of it is an
upload or a double that is infinite or a NaN. A document comes back from its value exactly when no
part of it is an unsigned integer beyond the signed range of 64 bits. -/
theorem conversion_round_trips :
    (∀ value : Value, Value.ofJson value.toJson = value ↔
      (∀ attachments, ¬(Value.files attachments).IsPart value) ∧
        ∀ x, (Value.float x).IsPart value → x.isFinite = true) ∧
    ∀ document : Json, (Value.ofJson document).toJson = document ↔
      ∀ n : UInt64, (Json.number (.unsigned n)).IsPart document →
        n.toNat ≤ Int64.maxValue.toInt := by
  refine ⟨fun value => (Value.ofJson_toJson_iff value).trans ?_, Json.toJson_ofJson_iff⟩
  constructor
  · intro plain
    exact ⟨plain.no_files, plain.floats_finite⟩
  · rintro ⟨no_files, floats_finite⟩
    exact ⟨no_files, floats_finite⟩

end RequestParams
