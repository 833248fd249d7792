import Mathlib.Logic.ExistsUnique
import RequestParams.Proofs.Validation.Composition
import RequestParams.Proofs.Validation.Outcome

/-!
# What the verdict on a request says

A request is accepted with arguments or refused with an error. Arguments vouch for their parameters:
each value has passed the rules and has the declared shape, and an argument is absent only where
nothing was given and nothing was required. An error tells the truth about the parameter it names,
and each parameter by itself ends in exactly one of the six ways of `Param.Outcome`.
-/

namespace RequestParams

/-! ## Accepted requests -/

namespace Param

variable {p : Param} {name : String} {provider : Provider}

/-- An upload before the rules is the list that the provider holds, and is not empty. -/
theorem files_of_candidate {value : Value} (upload : p.source = .file)
    (candidate : p.Candidate name provider value) :
    ∃ files, value = .files files ∧ files ≠ [] ∧ provider.files name = some files := by
  cases candidate with
  | given given coerces =>
      rw [IsGiven, if_pos upload] at given
      obtain ⟨files, files_eq, not_blank, rfl⟩ := given
      cases coerces with
      | unchanged => exact ⟨files, rfl, fun empty => not_blank (.inl empty), files_eq⟩
  | default _ default_eq =>
      rw [p.default_eq_none_of_file upload] at default_eq
      cases default_eq

end Param

namespace ParamSet

theorem names_of_check_eq_ok {set : ParamSet} {provider : Provider} {args : Arguments}
    (accepted : (set.check provider).result = .ok args) :
    args.entries.map Prod.fst = set.names := by
  have results_eq := (check_eq_ok_iff set provider args).mp accepted
  have names_eq := congrArg (List.map Prod.fst) results_eq
  simpa [namedResult, namedArgument, names, Function.comp_def] using names_eq.symm

/-- The argument under the name of a parameter is what the parameter resolves to. -/
theorem resolve_of_check_eq_ok {set : ParamSet} {provider : Provider} {args : Arguments}
    (accepted : (set.check provider).result = .ok args) {name : String} {p : Param}
    (p_mem : (name, p) ∈ set.entries) {argument : Option Value}
    (argument_mem : (name, argument) ∈ args.entries) :
    (p.resolve name provider).result = .ok argument := by
  have distinct : (args.entries.map Prod.fst).Nodup :=
    names_of_check_eq_ok accepted ▸ set.names_nodup
  have lookup_eq := lookup_of_check_eq_ok accepted name
  rw [lookup_of_mem distinct argument_mem, get?, lookup_of_mem set.names_nodup p_mem] at lookup_eq
  exact (Option.some.inj lookup_eq).symm

/-- An argument of an accepted request is the end of the parameter of its name. -/
theorem exists_outcome_of_check_eq_ok {set : ParamSet} {provider : Provider} {args : Arguments}
    (accepted : (set.check provider).result = .ok args) {name : String} {argument : Option Value}
    (argument_mem : (name, argument) ∈ args.entries) :
    ∃ p, (name, p) ∈ set.entries ∧ p.Outcome name provider (.ok argument) := by
  have results_eq := (check_eq_ok_iff set provider args).mp accepted
  have result_mem : namedArgument (name, argument) ∈ set.entries.map (namedResult provider) := by
    rw [results_eq]
    exact List.mem_map_of_mem argument_mem
  obtain ⟨⟨declared, p⟩, entry_mem, result_eq⟩ := List.mem_map.mp result_mem
  obtain ⟨rfl, resolved⟩ := Prod.mk.inj result_eq
  exact ⟨p, entry_mem, (p.resolve_result_iff declared provider _).mp resolved⟩

/-- Arguments have the declared names in order, and each vouches for its parameter: it is absent
only if the parameter is optional, has no default and is given nothing usable; and a value is
accepted by every rule and has the declared shape, or is the nonempty upload that the provider
holds. -/
theorem accepted_arguments_sound (set : ParamSet) (provider : Provider) (args : Arguments)
    (accepted : (set.check provider).result = .ok args) :
    args.entries.map Prod.fst = set.names ∧
      ∀ name p, (name, p) ∈ set.entries → ∀ argument, (name, argument) ∈ args.entries →
        match argument with
        | none => p.optional = true ∧ p.default = none ∧ p.IsAbsent name provider
        | some value =>
          (∀ rule ∈ p.rules, rule.accepts value = true) ∧
            if p.source = .file then
              ∃ files, value = .files files ∧ files ≠ [] ∧ provider.files name = some files
            else p.shape.admits value = true := by
  refine ⟨names_of_check_eq_ok accepted, fun name p p_mem argument argument_mem => ?_⟩
  have resolved := resolve_of_check_eq_ok accepted p_mem argument_mem
  cases (p.resolve_result_iff name provider _).mp resolved with
  | absent absent no_default optional => exact ⟨optional, no_default, absent⟩
  | accepted candidate has_shape rules_accept =>
      refine ⟨rules_accept, ?_⟩
      split
      · rename_i upload
        exact Param.files_of_candidate upload candidate
      · rename_i not_upload
        rwa [Param.HasShape, if_neg not_upload] at has_shape

end ParamSet

/-- A search without a tag is accepted: the page by its rule, the tag as absent. -/
theorem accepted_arguments_sound_search :
    (search.check (RequestInputs.empty.setQuery "page" "2").provider).result =
        .ok ⟨[("page", some (.int 2)), ("tag", none)]⟩ ∧
      (∀ rule ∈ pageNumber.rules, rule.accepts (.int 2) = true) ∧
      pageNumber.shape.admits (.int 2) = true ∧
      searchTag.IsAbsent "tag" (RequestInputs.empty.setQuery "page" "2").provider := by
  have accepted : (search.check (RequestInputs.empty.setQuery "page" "2").provider).result =
      .ok ⟨[("page", some (.int 2)), ("tag", none)]⟩ := rfl
  have sound := (ParamSet.accepted_arguments_sound search _ _ accepted).2
  have page_sound := sound "page" pageNumber (by simp [search]) (some (.int 2)) (by simp)
  have tag_sound := sound "tag" searchTag (by simp [search]) none (by simp)
  exact ⟨accepted, page_sound.1, page_sound.2, tag_sound.2.2⟩

/-! ## Refused requests -/

namespace Param

variable {p : Param} {name : String} {provider : Provider}

/-- The error of a parameter carries its source and the name under which it is looked up. -/
theorem source_field_of_outcome {e : ValidationError} (fails : p.Outcome name provider (.error e)) :
    e.source = p.source ∧ e.field = p.lookupName name := by
  cases fails <;> exact ⟨rfl, rfl⟩

theorem Outcome.unique {first second : Except ValidationError (Option Value)}
    (allowed : p.Outcome name provider first) (other : p.Outcome name provider second) :
    first = second :=
  (p.resolve_of_outcome name provider allowed).symm.trans (p.resolve_of_outcome name provider other)

end Param

namespace ParamSet

/-- The error of a request is the end of one of its parameters. -/
theorem exists_outcome_of_check_eq_error {set : ParamSet} {provider : Provider}
    {e : ValidationError} (refused : (set.check provider).result = .error e) :
    ∃ name p, (name, p) ∈ set.entries ∧ p.Outcome name provider (.error e) := by
  obtain ⟨arguments, name, after, results_eq⟩ := (check_eq_error_iff set provider e).mp refused
  have error_mem : (name, Except.error e) ∈ set.entries.map (namedResult provider) := by
    rw [results_eq]
    exact List.mem_append_right _ List.mem_cons_self
  obtain ⟨⟨declared, p⟩, entry_mem, result_eq⟩ := List.mem_map.mp error_mem
  have fails : (p.resolve declared provider).result = .error e := congrArg Prod.snd result_eq
  exact ⟨declared, p, entry_mem, (p.resolve_result_iff declared provider _).mp fails⟩

/-- The check of a parameter by itself ends as the relation allows. -/
theorem check_single_eq_iff (provider : Provider) (name : String) (p : Param)
    (nonempty : name ≠ "") (outcome : Except ValidationError (Option Value)) :
    ((single name p nonempty).check provider).result =
        outcome.map (fun argument => ⟨[(name, argument)]⟩) ↔
      p.Outcome name provider outcome := by
  rw [check_single, ← p.resolve_result_iff, singleResult, namedResult]
  constructor
  · intro same
    cases resolved : (p.resolve name provider).result <;> cases outcome <;>
      simp_all [Except.map]
  · rintro rfl
    rfl

/-- An error carries the source and the name of a declared parameter and states why it is refused,
as `Param.Outcome` says: missing, not converted, of another shape, or refused by its first refusing
rule. For a parameter by itself exactly one of these ends, or acceptance, or absence comes about,
and it is the one whose condition holds. -/
theorem errors_tell_truth (set : ParamSet) (provider : Provider) :
    (∀ e, (set.check provider).result = .error e →
      ∃ name p, (name, p) ∈ set.entries ∧ e.source = p.source ∧ e.field = p.lookupName name ∧
        p.Outcome name provider (.error e)) ∧
    ∀ name p (nonempty : name ≠ ""),
      (∃! outcome, p.Outcome name provider outcome) ∧
      ∀ outcome, p.Outcome name provider outcome ↔
        ((single name p nonempty).check provider).result =
          outcome.map fun argument => ⟨[(name, argument)]⟩ := by
  refine ⟨fun e refused => ?_, fun name p nonempty => ⟨?_, fun outcome => ?_⟩⟩
  · obtain ⟨name, p, entry_mem, fails⟩ := exists_outcome_of_check_eq_error refused
    obtain ⟨source_eq, field_eq⟩ := Param.source_field_of_outcome fails
    exact ⟨name, p, entry_mem, source_eq, field_eq, fails⟩
  · exact ⟨_, p.outcome_resolve name provider,
      fun other allowed => allowed.unique (p.outcome_resolve name provider)⟩
  · exact (check_single_eq_iff provider name p nonempty outcome).symm

end ParamSet

/-- Tags in a body. -/
def bodyTags : Param where
  source := .json
  shape := .list (.scalar .str)
  default := none
  rules := []
  optional := false
  wireName := none
  file_of_upload := by simp
  sound := by decide

/-- A body with nothing but tags. -/
def tagging : ParamSet := ⟨[("tags", bodyTags)], by simp, by simp⟩

/-- What is no list of texts, with the kind that it is of. -/
def kindsOfOthers : List (Json × String) :=
  [(.bool true, "bool"), (.number (.unsigned 3), "int"),
    (.number (.float ⟨0⟩ (by decide)), "float"), (.string "a", "str"), (.array [.null], "list"),
    (.object [("a", .string "b")], "dict")]

/-- The request that gives the tags so. -/
def taggedWith (tags : Json) : RequestInputs :=
  RequestInputs.empty.setJson (.object [("tags", tags)])

/-- The page `0` of a search is refused by the least page, and tags of a body are refused for what
they are instead of a list of texts. The errors name the parameter that they are about. -/
theorem errors_tell_truth_search :
    ((search.check (RequestInputs.empty.setQuery "page" "0").provider).result =
        .error (.ruleViolation .query "page" "Min" "must be at least 1") ∧
      ∃ name p, (name, p) ∈ search.entries ∧ p.source = .query ∧ p.lookupName name = "page" ∧
        p.Outcome name (RequestInputs.empty.setQuery "page" "0").provider
          (.error (.ruleViolation .query "page" "Min" "must be at least 1"))) ∧
    ∀ given ∈ kindsOfOthers,
      (tagging.check (taggedWith given.1).provider).result =
          .error (.typeMismatch .json "tags" (.list (.scalar .str)) given.2) ∧
        ∃ name p, (name, p) ∈ tagging.entries ∧ p.source = .json ∧ p.lookupName name = "tags" ∧
          p.Outcome name (taggedWith given.1).provider
            (.error (.typeMismatch .json "tags" (.list (.scalar .str)) given.2)) := by
  constructor
  · have refused : (search.check (RequestInputs.empty.setQuery "page" "0").provider).result =
        .error (.ruleViolation .query "page" "Min" "must be at least 1") := rfl
    obtain ⟨name, p, entry_mem, source_eq, field_eq, fails⟩ :=
      (ParamSet.errors_tell_truth search _).1 _ refused
    exact ⟨refused, name, p, entry_mem, source_eq.symm, field_eq.symm, fails⟩
  · have all_refused : ∀ given ∈ kindsOfOthers,
        (tagging.check (taggedWith given.1).provider).result =
          .error (.typeMismatch .json "tags" (.list (.scalar .str)) given.2) := by
      simp only [kindsOfOthers, List.forall_mem_cons]
      exact ⟨rfl, rfl, rfl, rfl, rfl, rfl, List.forall_mem_nil _⟩
    intro given given_mem
    have refused := all_refused given given_mem
    obtain ⟨name, p, entry_mem, source_eq, field_eq, fails⟩ :=
      (ParamSet.errors_tell_truth tagging _).1 _ refused
    exact ⟨refused, name, p, entry_mem, source_eq.symm, field_eq.symm, fails⟩

end RequestParams
