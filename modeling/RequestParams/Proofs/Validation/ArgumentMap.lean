import RequestParams.Proofs.Arguments
import RequestParams.Proofs.Validation.Verdict

/-!
# Accepted arguments are a map

The arguments of a request are a list that is read through its first entry of a name and through an
object ordered by name. No two parameters of a set have the same name, and a check gives each of
them one argument: each entry is the first of its name, and the object keeps every one.
-/

namespace RequestParams

/-- Accepted arguments are a map from the declared names: no name occurs twice, what is found under
a name is the entry of that name, and the object of the arguments has one member for each name, with
the document of the value or `null`. -/
theorem ParamSet.accepted_arguments_are_map (set : ParamSet) (provider : Provider)
    (args : Arguments) (accepted : (set.check provider).result = .ok args) :
    (args.entries.map Prod.fst).Nodup ∧
    (∀ name, args.contains name = true ↔ name ∈ set.names) ∧
    (∀ name value, args.get? name = some value ↔ (name, some value) ∈ args.entries) ∧
    (∀ name, args.isPresent name = true ↔ ∃ value, args.get? name = some value) ∧
    ∃ members, args.toJson = .object members ∧ members.length = args.size ∧
      Fields.IsOrdered members ∧ (members.map Prod.fst).Perm set.names ∧
      (∀ name value, args.get? name = some value →
        members.lookup name = some value.toJson) ∧
      ∀ name ∈ set.names, args.get? name = none → members.lookup name = some .null := by
  have names_eq : args.entries.map Prod.fst = set.names := names_of_check_eq_ok accepted
  have distinct : (args.entries.map Prod.fst).Nodup := names_eq ▸ set.names_nodup
  have members_perm := Arguments.perm_documents distinct
  refine ⟨distinct, fun name => ?_, Arguments.get?_eq_some_iff distinct,
    fun name => Option.isSome_iff_exists, _, args.toJson_eq, ?_, Fields.isOrdered_ofList _, ?_,
    fun name value found => ?_, fun name name_mem no_value => ?_⟩
  · rw [Arguments.contains_eq_true_iff, names_eq]
  · rw [members_perm.length_eq, Arguments.documents, List.length_map, Arguments.size]
  · rw [← names_eq, ← args.map_fst_documents]
    exact members_perm.map Prod.fst
  · have entry_mem := (Arguments.get?_eq_some_iff distinct name value).mp found
    rw [Arguments.lookup_documents distinct, lookup_of_mem distinct entry_mem]
    rfl
  · have entry_mem := Arguments.mem_of_get?_eq_none distinct (names_eq ▸ name_mem) no_value
    rw [Arguments.lookup_documents distinct, lookup_of_mem distinct entry_mem]
    rfl

/-- The arguments of a search without a tag have two members, the page and `null`. -/
theorem accepted_arguments_are_map_search :
    (search.check (RequestInputs.empty.setQuery "page" "2").provider).result =
        .ok ⟨[("page", some (.int 2)), ("tag", none)]⟩ ∧
      ∃ members, Arguments.toJson ⟨[("page", some (.int 2)), ("tag", none)]⟩ = .object members ∧
        members.length = 2 ∧ members.lookup "page" = some (.number (.unsigned 2)) ∧
        members.lookup "tag" = some .null := by
  have accepted : (search.check (RequestInputs.empty.setQuery "page" "2").provider).result =
      .ok ⟨[("page", some (.int 2)), ("tag", none)]⟩ := rfl
  obtain ⟨-, -, -, -, members, members_eq, length_eq, -, -, present, absent⟩ :=
    ParamSet.accepted_arguments_are_map search _ _ accepted
  exact ⟨accepted, members, members_eq, length_eq, present "page" (.int 2) rfl,
    absent "tag" (by simp [search, ParamSet.names]) rfl⟩

end RequestParams
