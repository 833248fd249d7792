import RequestParams.Fields
import RequestParams.Proofs.Lookup

/-!
# Ordered fields

Setting a key in ordered fields keeps their order and changes what is found under that key and under
no other. Fields put together from pairs of distinct keys hold each pair and nothing else, whatever
the order in which they were given.
-/

namespace RequestParams.Fields

variable {α : Type}

theorem lookup_insert (key : String) (value : α) (fields : Fields α) (other : String) :
    (insert key value fields).lookup other =
      if other = key then some value else fields.lookup other := by
  induction fields with
  | nil => rw [insert, lookup_cons_eq_ite]
  | cons field rest induction =>
      obtain ⟨k, v⟩ := field
      rw [insert]
      by_cases before : key < k
      · rw [if_pos before, lookup_cons_eq_ite]
      · rw [if_neg before]
        by_cases present : key = k
        · rw [if_pos present, lookup_cons_eq_ite, lookup_cons_eq_ite, ← present]
          split <;> rfl
        · have different : other = k → ¬other = key :=
            fun found same => present (same.symm.trans found)
          rw [if_neg present, lookup_cons_eq_ite, lookup_cons_eq_ite, induction,
            ite_ite_comm _ _ _ _ different]

theorem lookup_ofList {pairs : List (String × α)} (distinct : (pairs.map Prod.fst).Nodup)
    (key : String) : (ofList pairs).lookup key = pairs.lookup key :=
  lookup_foldl_put_of_nodup (fun fields key value => insert key value fields)
    (fun fields key value other => lookup_insert key value fields other) distinct key

/-! ## What the fields are -/

theorem mem_of_mem_insert {key : String} {value : α} {fields : Fields α} {field : String × α}
    (mem : field ∈ insert key value fields) : field = (key, value) ∨ field ∈ fields := by
  induction fields with
  | nil => exact .inl (List.mem_singleton.mp mem)
  | cons first rest induction =>
      obtain ⟨k, v⟩ := first
      rw [insert] at mem
      split at mem
      · exact List.mem_cons.mp mem
      · split at mem
        · rcases List.mem_cons.mp mem with new | old
          · exact .inl new
          · exact .inr (List.mem_cons_of_mem _ old)
        · rcases List.mem_cons.mp mem with first_eq | later
          · exact .inr (first_eq ▸ List.mem_cons_self)
          · exact (induction later).imp_right (List.mem_cons_of_mem _)

theorem isOrdered_insert (key : String) (value : α) {fields : Fields α}
    (ordered : fields.IsOrdered) : (insert key value fields).IsOrdered := by
  induction fields with
  | nil => exact List.pairwise_singleton _ _
  | cons first rest induction =>
      obtain ⟨k, v⟩ := first
      obtain ⟨first_lt, rest_ordered⟩ := List.pairwise_cons.mp ordered
      rw [insert]
      by_cases before : key < k
      · rw [if_pos before]
        refine List.pairwise_cons.mpr ⟨fun field field_mem => ?_, ordered⟩
        rcases List.mem_cons.mp field_mem with rfl | later
        · exact before
        · exact String.lt_trans before (first_lt field later)
      · rw [if_neg before]
        by_cases present : key = k
        · rw [if_pos present]
          exact List.pairwise_cons.mpr ⟨present ▸ first_lt, rest_ordered⟩
        · rw [if_neg present]
          have after : k < key := Std.lt_of_le_of_ne (String.not_lt.mp before) (Ne.symm present)
          refine List.pairwise_cons.mpr ⟨fun field field_mem => ?_, induction rest_ordered⟩
          rcases mem_of_mem_insert field_mem with rfl | later
          · exact after
          · exact first_lt field later

theorem isOrdered_ofList (pairs : List (String × α)) : (ofList pairs).IsOrdered := by
  suffices kept : ∀ fields : Fields α, fields.IsOrdered →
      (pairs.foldl (fun fields pair => insert pair.1 pair.2 fields) fields).IsOrdered from
    kept [] List.Pairwise.nil
  induction pairs with
  | nil => exact fun fields ordered => ordered
  | cons pair pairs induction =>
      intro fields ordered
      exact induction _ (isOrdered_insert pair.1 pair.2 ordered)

/-- A key that is not there yet adds a field and replaces none. -/
theorem perm_insert {key : String} (value : α) {fields : Fields α} (fresh : key ∉ fields.keys) :
    (insert key value fields).Perm ((key, value) :: fields) := by
  induction fields with
  | nil => exact .refl _
  | cons first rest induction =>
      obtain ⟨k, v⟩ := first
      obtain ⟨different, fresh_rest⟩ := List.ne_and_not_mem_of_not_mem_cons fresh
      rw [insert]
      by_cases before : key < k
      · rw [if_pos before]
      · rw [if_neg before, if_neg different]
        exact ((induction fresh_rest).cons (k, v)).trans (.swap _ _ _)

theorem perm_ofList {pairs : List (String × α)} (distinct : (pairs.map Prod.fst).Nodup) :
    (ofList pairs).Perm pairs := by
  suffices added : ∀ fields : Fields α, ((pairs ++ fields).map Prod.fst).Nodup →
      (pairs.foldl (fun fields pair => insert pair.1 pair.2 fields) fields).Perm
        (pairs ++ fields) by
    have whole := added [] (by rwa [List.append_nil])
    rwa [List.append_nil] at whole
  induction pairs with
  | nil => exact fun fields _ => .refl _
  | cons pair pairs induction =>
      intro fields distinct_all
      rw [List.cons_append, List.map_cons, List.nodup_cons, List.map_append] at distinct_all
      obtain ⟨fresh, distinct_rest⟩ := distinct_all
      have inserted : (insert pair.1 pair.2 fields).Perm (pair :: fields) :=
        perm_insert pair.2 fun key_mem => fresh (List.mem_append_right _ key_mem)
      have moved : (pairs ++ insert pair.1 pair.2 fields).Perm (pair :: (pairs ++ fields)) :=
        (inserted.append_left pairs).trans List.perm_middle
      have distinct_moved :
          ((pairs ++ insert pair.1 pair.2 fields).map Prod.fst).Nodup := by
        rw [(moved.map Prod.fst).nodup_iff, List.map_cons, List.map_append]
        exact List.nodup_cons.mpr ⟨fresh, distinct_rest⟩
      exact (induction (List.nodup_cons.mp distinct).2 _ distinct_moved).trans moved

end RequestParams.Fields
