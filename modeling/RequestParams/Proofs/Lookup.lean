import Mathlib.Logic.Basic

/-!
# Lookups in lists of pairs

Where no key occurs twice, the lookup of a key finds the pair that holds it, wherever the pair
stands. Reordering the pairs changes no lookup. Where pairs are put into a list one after the other
and each replaces the pair of its key, the last pair of a key is found.
-/

namespace RequestParams

variable {α β : Type} [BEq α] [LawfulBEq α]

theorem mem_of_lookup {pairs : List (α × β)} {key : α} {value : β}
    (found : pairs.lookup key = some value) : (key, value) ∈ pairs := by
  obtain ⟨before, after, rfl, -⟩ := List.lookup_eq_some_iff.mp found
  exact List.mem_append_right before List.mem_cons_self

theorem lookup_of_mem {pairs : List (α × β)} (distinct : (pairs.map Prod.fst).Nodup)
    {key : α} {value : β} (mem : (key, value) ∈ pairs) : pairs.lookup key = some value := by
  obtain ⟨before, after, rfl⟩ := List.append_of_mem mem
  refine List.lookup_eq_some_iff.mpr ⟨before, after, rfl, fun pair pair_mem => ?_⟩
  rw [List.map_append, List.nodup_append] at distinct
  have different := distinct.2.2 pair.1 (List.mem_map_of_mem pair_mem) key (by simp)
  simpa using Ne.symm different

theorem lookup_eq_some_iff_mem {pairs : List (α × β)} (distinct : (pairs.map Prod.fst).Nodup)
    (key : α) (value : β) : pairs.lookup key = some value ↔ (key, value) ∈ pairs :=
  ⟨mem_of_lookup, lookup_of_mem distinct⟩

theorem lookup_of_perm {left right : List (α × β)} (perm : left.Perm right)
    (distinct : (left.map Prod.fst).Nodup) (key : α) : left.lookup key = right.lookup key := by
  have distinct_right : (right.map Prod.fst).Nodup := (perm.map Prod.fst).nodup_iff.mp distinct
  apply Option.ext
  intro value
  rw [lookup_eq_some_iff_mem distinct, lookup_eq_some_iff_mem distinct_right]
  exact perm.mem_iff

/-- A map that keeps the keys maps the value that is found. -/
theorem lookup_map {γ : Type} (f : α → β → γ) (pairs : List (α × β)) (key : α) :
    (pairs.map fun pair => (pair.1, f pair.1 pair.2)).lookup key =
      (pairs.lookup key).map (f key) := by
  induction pairs with
  | nil => rfl
  | cons pair pairs induction =>
      rw [List.map_cons, List.lookup_cons, List.lookup_cons, induction]
      cases same : key == pair.1 with
      | false => rfl
      | true => rw [eq_of_beq same]; rfl

theorem lookup_cons_eq_ite [DecidableEq α] (pair : α × β) (pairs : List (α × β)) (key : α) :
    (pair :: pairs).lookup key = if key = pair.1 then some pair.2 else pairs.lookup key := by
  rw [List.lookup_cons]
  by_cases same : key = pair.1
  · rw [if_pos same, beq_iff_eq.mpr same]
  · rw [if_neg same, beq_false_of_ne same]

theorem lookup_filter_ne [DecidableEq α] (pairs : List (α × β)) (key other : α) :
    (pairs.filter fun pair => pair.1 != key).lookup other =
      if other = key then none else pairs.lookup other := by
  induction pairs with
  | nil => simp
  | cons pair pairs induction =>
      by_cases dropped : pair.1 = key
      · rw [List.filter_cons_of_neg (by simp [dropped]), induction, lookup_cons_eq_ite, dropped]
        split <;> rfl
      · have different : other = pair.1 → ¬other = key := fun found => found ▸ dropped
        rw [List.filter_cons_of_pos (by simpa using dropped), lookup_cons_eq_ite, induction,
          lookup_cons_eq_ite, ite_ite_comm _ _ _ _ different]

/-- After putting pairs in one after the other, the last pair of a key is found, or what was there
before. -/
theorem lookup_foldl_put [DecidableEq α] (put : List (α × β) → α → β → List (α × β))
    (lookup_put : ∀ pairs key value other,
      (put pairs key value).lookup other = if other = key then some value else pairs.lookup other)
    (given pairs : List (α × β)) (key : α) :
    (given.foldl (fun pairs pair => put pairs pair.1 pair.2) pairs).lookup key =
      (given.reverse.lookup key).or (pairs.lookup key) := by
  induction given generalizing pairs with
  | nil => rfl
  | cons pair given induction =>
      rw [List.foldl_cons, induction, lookup_put, List.reverse_cons, List.lookup_append,
        Option.or_assoc, lookup_cons_eq_ite]
      by_cases same : key = pair.1
      · rw [if_pos same, if_pos same, Option.some_or]
      · rw [if_neg same, if_neg same, List.lookup_nil, Option.none_or]

/-- Pairs of distinct keys put into an empty list one after the other are found as they are. -/
theorem lookup_foldl_put_of_nodup [DecidableEq α] (put : List (α × β) → α → β → List (α × β))
    (lookup_put : ∀ pairs key value other,
      (put pairs key value).lookup other = if other = key then some value else pairs.lookup other)
    {given : List (α × β)} (distinct : (given.map Prod.fst).Nodup) (key : α) :
    (given.foldl (fun pairs pair => put pairs pair.1 pair.2) []).lookup key = given.lookup key := by
  rw [lookup_foldl_put put lookup_put, List.lookup_nil, Option.or_none]
  exact (lookup_of_perm (List.reverse_perm given).symm distinct key).symm

end RequestParams
