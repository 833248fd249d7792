import RequestParams.Proofs.Arguments
import RequestParams.Proofs.RequestInputs.WriteLog
import RequestParams.Proofs.Validation.Revalidation
import RequestParams.Proofs.Validation.TextSources
import RequestParams.Proofs.Value.Nulls

/-!
# Accepted doubles are finite

Doubles come from three places. A text is read as a double only if that is finite, the value of a
document holds finite doubles only, and a default is as it was declared. Whatever is put into a
store and in whatever order, the arguments of an accepted request therefore hold finite doubles at
every depth, if the defaults do. No double is then written as null: a null in the document of the
arguments stands for an absent argument or for a null of the request.
-/

namespace RequestParams

/-! ## Texts -/

theorem Binary64.isFinite_of_ofText? {text : String} {x : Binary64}
    (read : ofText? text = some x) : x.isFinite = true := by
  obtain ⟨written, -, rounded⟩ := Option.bind_eq_some_iff.mp read
  split at rounded
  · rename_i finite
    obtain rfl := Option.some.inj rounded
    exact finite
  · cases rounded

/-- No text is read as a double that is not finite. -/
theorem Scalar.floatsFinite_of_read {target : Scalar} {text : String} {value : Value}
    (read : target.read? text = some value) : value.FloatsFinite := by
  cases target with
  | float =>
      obtain ⟨x, read_float, rfl⟩ := Option.map_eq_some_iff.mp read
      have finite := Binary64.isFinite_of_ofText? read_float
      exact ((Value.isPlain_float_iff x).mpr finite).floats_finite
  | int | bool =>
      obtain ⟨content, -, rfl⟩ := Option.map_eq_some_iff.mp read
      exact (Value.isPlain_of_isAtom rfl).floats_finite
  | str =>
      obtain rfl := Option.some.inj read
      exact (Value.isPlain_of_isAtom rfl).floats_finite

/-! ## Stores -/

namespace RequestInputs

/-- Every double in the body of the store is finite. -/
def BodyFinite (r : RequestInputs) : Prop :=
  ∀ body, r.body = some body → body.FloatsFinite

theorem BodyFinite.apply {r : RequestInputs} (finite : r.BodyFinite) (op : Operation) :
    (op.apply r).BodyFinite := by
  intro body body_eq
  rw [Operation.body_apply] at body_eq
  cases set : op.body? with
  | none =>
      rw [set] at body_eq
      exact finite body body_eq
  | some document =>
      rw [set] at body_eq
      obtain rfl := Option.some.inj body_eq
      exact (Value.isPlain_ofJson document).floats_finite

theorem bodyFinite_ofOperations (ops : List Operation) : (ofOperations ops).BodyFinite := by
  induction ops using List.reverseRecOn with
  | nil =>
      intro body none
      cases none
  | append_singleton ops op induction =>
      rw [ofOperations_append_singleton]
      exact induction.apply op

/-- Outside of its body a store holds texts, which are no doubles. -/
theorem BodyFinite.lookup {r : RequestInputs} (finite : r.BodyFinite) {source : Source}
    {key : String} {value : Value} (found : r.lookup source key = some value) :
    value.FloatsFinite := by
  by_cases textual : source.isTextBearing = true
  · obtain ⟨text, rfl⟩ := exists_str_of_lookup textual found
    exact (Value.isPlain_of_isAtom rfl).floats_finite
  · cases source with
    | route | query | form | header => exact absurd rfl textual
    | file => cases found
    | json =>
        rw [RequestInputs.lookup] at found
        split at found
        · rename_i fields body_eq
          exact (finite _ body_eq).field (mem_of_lookup found)
        · cases found

end RequestInputs

/-! ## Parameters -/

namespace Param

variable {p : Param} {name : String} {r : RequestInputs}

theorem floatsFinite_of_isGiven (finite : r.BodyFinite) {raw : Value}
    (given : p.IsGiven name r.provider raw) : raw.FloatsFinite := by
  unfold IsGiven at given
  split at given
  · obtain ⟨files, -, -, rfl⟩ := given
    exact Value.floatsFinite_files files
  · exact finite.lookup given.1

theorem floatsFinite_of_coerces {raw value : Value} (finite : raw.FloatsFinite)
    (coerces : p.Coerces raw value) : value.FloatsFinite := by
  cases coerces with
  | converted _ read => exact Scalar.floatsFinite_of_read read
  | unchanged => exact finite

/-- Doubles are finite in a value that comes before the rules: given, coerced or a default. -/
theorem floatsFinite_of_candidate (finite : r.BodyFinite)
    (finite_default : ∀ value, p.default = some value → value.FloatsFinite) {value : Value}
    (candidate : p.Candidate name r.provider value) : value.FloatsFinite := by
  cases candidate with
  | given given coerces =>
      have raw_finite := floatsFinite_of_isGiven finite given
      exact floatsFinite_of_coerces raw_finite coerces
  | default _ default_eq => exact finite_default value default_eq

end Param

/-! ## Arguments -/

namespace Arguments

variable {args : Arguments}

theorem at?_toJson_key (distinct : (args.entries.map Prod.fst).Nodup) (name : String)
    (rest : List Step) :
    args.toJson.at? (.key name :: rest) =
      (args.entries.lookup name).bind fun argument => (entryJson argument).at? rest := by
  have members : args.toJson.at? (.key name :: rest) =
      ((args.entries.lookup name).map entryJson).bind fun document => document.at? rest := by
    rw [← lookup_documents distinct]
    rfl
  rw [members, Option.bind_map]
  rfl

/-- The document of an argument is null where the argument is absent and where it holds null. -/
theorem at?_entryJson_eq_null_iff {argument : Option Value}
    (finite : ∀ value, argument = some value → value.FloatsFinite) (rest : List Step) :
    (entryJson argument).at? rest = some .null ↔
      argument = none ∧ rest = [] ∨
        ∃ value, argument = some value ∧ value.at? rest = some .null := by
  cases argument with
  | none =>
      cases rest with
      | nil => simp [entryJson, Json.at?]
      | cons step rest => simp [entryJson, Json.at?]
  | some value =>
      have same_places := Value.at?_toJson_eq_null_iff (finite value rfl) rest
      simpa [entryJson] using same_places

/-- Where all doubles are finite, the document of arguments is null at an absent argument, at the
nulls within the others, and nowhere else. -/
theorem at?_toJson_eq_null_iff (distinct : (args.entries.map Prod.fst).Nodup)
    (finite : ∀ name value, (name, some value) ∈ args.entries → value.FloatsFinite)
    (path : List Step) :
    args.toJson.at? path = some .null ↔
      ∃ name argument rest, path = .key name :: rest ∧ (name, argument) ∈ args.entries ∧
        (argument = none ∧ rest = [] ∨
          ∃ value, argument = some value ∧ value.at? rest = some .null) := by
  match path with
  | [] => simp [toJson, Json.at?]
  | .index position :: rest => simp [toJson, Json.at?]
  | .key name :: rest =>
      rw [at?_toJson_key distinct, Option.bind_eq_some_iff]
      constructor
      · rintro ⟨argument, found, null⟩
        have argument_mem := mem_of_lookup found
        have argument_finite : ∀ value, argument = some value → value.FloatsFinite := by
          rintro value rfl
          exact finite name value argument_mem
        exact ⟨name, argument, rest, rfl, argument_mem,
          (at?_entryJson_eq_null_iff argument_finite rest).mp null⟩
      · rintro ⟨declared, argument, others, path_eq, argument_mem, null⟩
        obtain ⟨step_eq, rfl⟩ := List.cons.inj path_eq
        obtain rfl := Step.key.inj step_eq
        have argument_finite : ∀ value, argument = some value → value.FloatsFinite := by
          rintro value rfl
          exact finite name value argument_mem
        exact ⟨argument, lookup_of_mem distinct argument_mem,
          (at?_entryJson_eq_null_iff argument_finite rest).mpr null⟩

end Arguments

/-- Whatever operations put a request together, the values that it is accepted with hold finite
doubles only, at any depth, if the defaults do. Their document is null where an argument is absent
or holds null itself, and nowhere else. -/
theorem ParamSet.accepted_doubles_finite (set : ParamSet)
    (finite_defaults : ∀ entry ∈ set.entries, ∀ value, entry.2.default = some value →
      ∀ x, (Value.float x).IsPart value → x.isFinite = true)
    (ops : List RequestInputs.Operation) (args : Arguments)
    (accepted : (set.check (RequestInputs.ofOperations ops).provider).result = .ok args) :
    (∀ name value, (name, some value) ∈ args.entries →
      ∀ x, (Value.float x).IsPart value → x.isFinite = true) ∧
    ∀ path, args.toJson.at? path = some .null ↔
      ∃ name argument rest, path = .key name :: rest ∧ (name, argument) ∈ args.entries ∧
        (argument = none ∧ rest = [] ∨
          ∃ value, argument = some value ∧ value.at? rest = some .null) := by
  have finite : ∀ name value, (name, some value) ∈ args.entries → value.FloatsFinite := by
    intro name value argument_mem
    obtain ⟨p, p_mem, ends⟩ := exists_outcome_of_check_eq_ok accepted argument_mem
    cases ends with
    | accepted candidate _ _ =>
        exact Param.floatsFinite_of_candidate (RequestInputs.bodyFinite_ofOperations ops)
          (finite_defaults (name, p) p_mem) candidate
  have distinct : (args.entries.map Prod.fst).Nodup :=
    names_of_check_eq_ok accepted ▸ set.names_nodup
  exact ⟨finite, Arguments.at?_toJson_eq_null_iff distinct finite⟩

/-- A ratio of a query. -/
def ratio : Param := requiredParam .query (.scalar .float) (by decide)

/-- A ratio, anything from the body, and a tag that may be missing. -/
def measurement : ParamSet where
  entries :=
    [("ratio", ratio), ("extra", requiredParam .json .any (by decide)),
      ("tag", searchTag)]
  names_nonempty := by simp
  names_nodup := by simp

/-- A ratio that is infinite at first and then another one, and a body with a double and a null. -/
def measured : List RequestInputs.Operation :=
  [.set .query "ratio" "inf", .set .query "ratio" "2.5",
    .setJson (.object
      [("extra", .array [.number (.float ⟨0x3FF8000000000000⟩ (by decide)), .null])])]

/-- What the measurement is accepted with. -/
def measuredArguments : Arguments :=
  ⟨[("ratio", some (.float ⟨0x4004000000000000⟩)),
    ("extra", some (.list [.float ⟨0x3FF8000000000000⟩, .null])), ("tag", none)]⟩

theorem check_measured :
    (measurement.check (RequestInputs.ofOperations measured).provider).result =
      .ok measuredArguments := by
  have read : Scalar.float.read? "2.5" = some (.float ⟨0x4004000000000000⟩) := by
    have rounded : Binary64.ofText? "2.5" = some ⟨0x4004000000000000⟩ := by decide +kernel
    rw [Scalar.read?, rounded, Option.map_some]
  have ratio_end : ratio.Outcome "ratio" (RequestInputs.ofOperations measured).provider
      (.ok (some (.float ⟨0x4004000000000000⟩))) :=
    .accepted (.given ⟨rfl, by simp⟩ (.converted ⟨by decide, rfl, by decide⟩ read)) rfl
      (fun _ none => nomatch none)
  have ratio_result := (ratio.resolve_result_iff "ratio" _ _).mpr ratio_end
  rw [ParamSet.check_eq_ok_iff, measurement, measuredArguments, List.map_cons, List.map_cons]
  refine List.cons_eq_cons.mpr ⟨?_, rfl⟩
  simp only [namedResult, ratio_result, namedArgument]

/-- The double of the text and the one of the body are finite, and the document is null at the null
of the body and at the tag. -/
theorem accepted_doubles_finite_measured :
    (∀ entry ∈ measurement.entries, ∀ value, entry.2.default = some value →
      ∀ x, (Value.float x).IsPart value → x.isFinite = true) ∧
    (measurement.check (RequestInputs.ofOperations measured).provider).result =
      .ok measuredArguments ∧
    (∀ name value, (name, some value) ∈ measuredArguments.entries →
      ∀ x, (Value.float x).IsPart value → x.isFinite = true) ∧
    measuredArguments.toJson.at? [.key "extra", .index 1] = some .null ∧
    measuredArguments.toJson.at? [.key "tag"] = some .null ∧
    measuredArguments.toJson.at? [.key "ratio"] ≠ some .null := by
  have finite_defaults : ∀ entry ∈ measurement.entries, ∀ value, entry.2.default = some value →
      ∀ x, (Value.float x).IsPart value → x.isFinite = true := by
    have no_default : ∀ entry ∈ measurement.entries, entry.2.default = none := by
      simp [measurement, ratio, requiredParam, Declaration.ofSource, searchTag]
    intro entry entry_mem value default_eq
    rw [no_default entry entry_mem] at default_eq
    cases default_eq
  obtain ⟨finite, nulls⟩ := ParamSet.accepted_doubles_finite measurement finite_defaults measured
    measuredArguments check_measured
  refine ⟨finite_defaults, check_measured, finite, ?_, ?_, ?_⟩
  · refine (nulls _).mpr ⟨"extra", some (.list [.float ⟨0x3FF8000000000000⟩, .null]), [.index 1],
      rfl, by simp [measuredArguments], .inr ⟨_, rfl, rfl⟩⟩
  · exact (nulls _).mpr ⟨"tag", none, [], rfl, by simp [measuredArguments], .inl ⟨rfl, rfl⟩⟩
  · rw [Ne, nulls]
    simp [measuredArguments, Value.at?]

end RequestParams
