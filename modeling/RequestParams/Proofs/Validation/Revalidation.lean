import RequestParams.Proofs.Arguments
import RequestParams.Proofs.RequestInputs.WriteLog
import RequestParams.Proofs.Validation.Verdict

/-!
# Checking accepted arguments again

Arguments that a JSON body was accepted with make a body of their own. Checked against the same
parameters it is accepted with the same arguments: values come back from their documents, an absent
argument is a null and hence absent again, and a default that stood in for a missing value is now
given. Null is the one default that is not: it counts as missing once more and stands in again.
-/

namespace RequestParams

/-- A request with a body and nothing else. -/
def RequestInputs.ofBody (body : Json) : RequestInputs := RequestInputs.empty.setJson body

theorem RequestInputs.lookup_ofBody (body : Json) (key : String) :
    (ofBody body).lookup .json key = (body.member? key).map Value.ofJson := by
  have body_eq : (ofBody body).body = (some body).map Value.ofJson := rfl
  exact lookup_json_of_body body_eq key

/-- The body of arguments holds each argument under its name. -/
theorem Arguments.lookup_ofBody_toJson {args : Arguments}
    (distinct : (args.entries.map Prod.fst).Nodup) {name : String} {argument : Option Value}
    (argument_mem : (name, argument) ∈ args.entries) :
    (RequestInputs.ofBody args.toJson).lookup .json name =
      some (Value.ofJson (entryJson argument)) := by
  have stored : args.toJson.member? name = some (entryJson argument) := by
    calc
      args.toJson.member? name = (args.entries.lookup name).map entryJson :=
        lookup_documents distinct name
      _ = some (entryJson argument) := by rw [lookup_of_mem distinct argument_mem, Option.map_some]
  rw [RequestInputs.lookup_ofBody, stored, Option.map_some]

namespace Param

variable {p : Param} {name : String} {provider : Provider}

/-! ## Parameters from the body -/

theorem isAbsent_iff_of_json (from_body : p.source = .json) :
    p.IsAbsent name provider ↔
      provider.lookup .json name = none ∨ provider.lookup .json name = some .null := by
  simp only [IsAbsent, lookupName, from_body, reduceCtorEq, if_false]

theorem isGiven_iff_of_json (from_body : p.source = .json) (raw : Value) :
    p.IsGiven name provider raw ↔ provider.lookup .json name = some raw ∧ raw ≠ .null := by
  simp only [IsGiven, lookupName, from_body, reduceCtorEq, if_false]

theorem coerces_iff_of_json (from_body : p.source = .json) (raw value : Value) :
    p.Coerces raw value ↔ value = raw := by
  have no_target : ∀ target, ¬p.ConvertsTo target := by
    intro target converts
    have textual := converts.source_mem
    rw [from_body] at textual
    simp at textual
  constructor
  · intro coerces
    cases coerces with
    | converted converts _ => exact absurd converts (no_target _)
    | unchanged => rfl
  · rintro rfl
    exact .unchanged fun _ _ => no_target

/-- A value before the rules that stems from a body or a plain default is plain. -/
theorem isPlain_of_candidate (from_body : p.source = .json)
    (plain_default : ∀ value, p.default = some value → value.IsPlain) {body : Json} {value : Value}
    (candidate : p.Candidate name (RequestInputs.ofBody body).provider value) : value.IsPlain := by
  cases candidate with
  | given given coerces =>
      obtain ⟨found, -⟩ := (isGiven_iff_of_json from_body _).mp given
      have member_found := (RequestInputs.lookup_ofBody body name).symm.trans found
      obtain ⟨member, -, rfl⟩ := Option.map_eq_some_iff.mp member_found
      rw [(coerces_iff_of_json from_body _ value).mp coerces]
      exact Value.isPlain_ofJson member
  | default _ default_eq => exact plain_default value default_eq

/-- A value before the rules comes before them again when its document is given. -/
theorem candidate_again (from_body : p.source = .json) {value : Value} {other : Provider}
    (candidate : p.Candidate name provider value)
    (given_back : other.lookup .json name = some value) : p.Candidate name other value := by
  by_cases null : value = .null
  · -- A null that is given counts as missing, so only as a default can it come before the rules.
    cases candidate with
    | given given coerces =>
        obtain rfl := (coerces_iff_of_json from_body _ value).mp coerces
        exact absurd null ((isGiven_iff_of_json from_body _).mp given).2
    | default _ default_eq =>
        exact .default ((isAbsent_iff_of_json from_body).mpr (.inr (null ▸ given_back))) default_eq
  · exact .given ((isGiven_iff_of_json from_body value).mpr ⟨given_back, null⟩)
      ((coerces_iff_of_json from_body value value).mpr rfl)

/-- A parameter that a body is accepted with ends the same way when its argument is given back. -/
theorem outcome_again (from_body : p.source = .json)
    (plain_default : ∀ value, p.default = some value → value.IsPlain) {body : Json}
    {argument : Option Value} {other : Provider}
    (first : p.Outcome name (RequestInputs.ofBody body).provider (.ok argument))
    (given_back : other.lookup .json name = some (Value.ofJson (Arguments.entryJson argument))) :
    p.Outcome name other (.ok argument) := by
  cases first with
  | absent _ no_default optional =>
      exact .absent ((isAbsent_iff_of_json from_body).mpr (.inr given_back)) no_default optional
  | accepted candidate has_shape rules_accept =>
      have plain := isPlain_of_candidate from_body plain_default candidate
      rw [Arguments.entryJson, (Value.ofJson_toJson_iff _).mpr plain] at given_back
      exact .accepted (candidate_again from_body candidate given_back) has_shape rules_accept

end Param

/-- Where all parameters come from the body and their defaults are plain, the arguments of an
accepted body, taken as a body, are accepted with the same arguments. -/
theorem ParamSet.check_toJson_eq (set : ParamSet)
    (from_body : ∀ entry ∈ set.entries, entry.2.source = .json)
    (plain_defaults : ∀ entry ∈ set.entries, ∀ value, entry.2.default = some value → value.IsPlain)
    (body : Json) (args : Arguments)
    (accepted : (set.check (RequestInputs.empty.setJson body).provider).result = .ok args) :
    (set.check (RequestInputs.empty.setJson args.toJson).provider).result = .ok args := by
  have distinct : (args.entries.map Prod.fst).Nodup :=
    names_of_check_eq_ok accepted ▸ set.names_nodup
  have results_eq := (check_eq_ok_iff set _ args).mp accepted
  rw [check_eq_ok_iff, ← results_eq]
  refine List.map_congr_left fun entry entry_mem => ?_
  obtain ⟨name, p⟩ := entry
  have result_mem : namedResult (RequestInputs.ofBody body).provider (name, p) ∈
      args.entries.map namedArgument := results_eq ▸ List.mem_map_of_mem entry_mem
  obtain ⟨⟨argument_name, argument⟩, argument_mem, result_eq⟩ := List.mem_map.mp result_mem
  obtain ⟨rfl, first_eq⟩ := Prod.mk.inj result_eq
  have first := (p.resolve_result_iff argument_name _ _).mp first_eq.symm
  have given_back : (RequestInputs.ofBody args.toJson).provider.lookup .json argument_name =
      some (Value.ofJson (Arguments.entryJson argument)) :=
    Arguments.lookup_ofBody_toJson distinct argument_mem
  have again := Param.outcome_again (from_body _ entry_mem) (plain_defaults _ entry_mem) first
    given_back
  have again_eq := (p.resolve_result_iff argument_name _ _).mpr again
  exact Prod.ext rfl (again_eq.trans first_eq)

/-- A member of a body, with what stands in for it and whether it may be missing. -/
def memberOf (shape : Shape) (default : Option Value) (optional : Bool)
    (sound : Declaration.defect? ⟨.json, shape, default, [], optional, none, by simp⟩ = none) :
    Param where
  source := .json
  shape := shape
  default := default
  rules := []
  optional := optional
  wireName := none
  file_of_upload := by simp
  sound := sound

/-- A required age, a name that may be missing, a page with a default, and a note that is null by
default. -/
def profile : ParamSet where
  entries :=
    [("age", memberOf (.scalar .int) none false (by decide)),
      ("name", memberOf (.scalar .str) none true (by decide)),
      ("page", memberOf (.scalar .int) (some (.int 1)) false (by decide)),
      ("note", memberOf .any (some .null) false (by decide))]
  names_nonempty := by simp
  names_nodup := by simp

/-- A body with an age alone. -/
def ageOnly : Json := .object [("age", .number (.unsigned 30))]

/-- The profile of such a body. -/
def filledProfile : Arguments :=
  ⟨[("age", some (.int 30)), ("name", none), ("page", some (.int 1)), ("note", some .null)]⟩

/-- The name is absent both times, the default page is given the second time, and the default null
stands in both times. -/
theorem check_toJson_eq_profile :
    (∀ entry ∈ profile.entries, entry.2.source = .json) ∧
      (∀ entry ∈ profile.entries, ∀ value, entry.2.default = some value → value.IsPlain) ∧
      (profile.check (RequestInputs.empty.setJson ageOnly).provider).result = .ok filledProfile ∧
      (profile.check (RequestInputs.empty.setJson filledProfile.toJson).provider).result =
        .ok filledProfile := by
  have from_body : ∀ entry ∈ profile.entries, entry.2.source = .json := by
    simp [profile, memberOf]
  have plain_defaults :
      ∀ entry ∈ profile.entries, ∀ value, entry.2.default = some value → value.IsPlain := by
    have atoms : ∀ entry ∈ profile.entries, ∀ value, entry.2.default = some value →
        value.isAtom = true := by
      simp [profile, memberOf, Value.isAtom]
    exact fun entry entry_mem value default_eq =>
      Value.isPlain_of_isAtom (atoms entry entry_mem value default_eq)
  have accepted :
      (profile.check (RequestInputs.empty.setJson ageOnly).provider).result = .ok filledProfile :=
    rfl
  exact ⟨from_body, plain_defaults, accepted,
    ParamSet.check_toJson_eq profile from_body plain_defaults ageOnly filledProfile accepted⟩

end RequestParams
