import RequestParams.Proofs.Shape.Construction
import RequestParams.Proofs.Validation.Revalidation
import RequestParams.Proofs.Validation.TextSources

/-!
# Requests for every declaration

No declaration that is built shuts out every request. A sample is made by recursion over the shape,
with an item in each list and a field in each mapping, so that all parts of the shape down the first
members of its unions have one; that no union is empty is what keeps the recursion going. Sent as a
body, or as a text where texts are declared, it is accepted.
-/

namespace RequestParams

/-! ## Samples -/

/-- A document of a scalar of this kind. -/
def Scalar.sample : Scalar → Json
  | int => .number (.unsigned 0)
  | str => .string ""
  | float => .number (.float ⟨0⟩ rfl)
  | bool => .bool false

/-- A text that is read as a scalar of this kind. -/
def Scalar.sampleText : Scalar → String
  | int => "0"
  | str => ""
  | float => "0"
  | bool => "false"

theorem Scalar.admits_ofJson_sample (kind : Scalar) :
    kind.admits (.ofJson kind.sample) = true := by
  cases kind <;> rfl

theorem Scalar.isSome_read?_sampleText (kind : Scalar) :
    (kind.read? kind.sampleText).isSome = true := by
  cases kind with
  | int | str | bool => rfl
  | float => decide +kernel

namespace Shape

/-- A document of a value of the shape, where the shape has no defect below the top. -/
def sample : Shape → Json
  | scalar kind => kind.sample
  | list item => .array [item.sample]
  | dict item => .object [("", item.sample)]
  | any => .bool false
  | union (first :: _) => first.sample
  | union [] | file => .null

/-- A text that is read as the first choice of the shape, where that is a scalar. -/
def sampleText (shape : Shape) : String :=
  match shape.firstChoice with
  | scalar kind => kind.sampleText
  | _ => ""

/-- The sample is a value of the shape, and none that counts as missing. -/
theorem admits_ofJson_sample {shape : Shape} (sound : shape.nestedDefect? = none) :
    shape.admits (.ofJson shape.sample) = true ∧ Value.ofJson shape.sample ≠ .null := by
  induction shape with
  | scalar kind =>
      refine ⟨kind.admits_ofJson_sample, fun is_null => ?_⟩
      cases kind <;> cases is_null
  | list item induction =>
      obtain ⟨admitted, -⟩ := induction sound
      refine ⟨?_, by simp [sample, Value.ofJson]⟩
      simp only [sample, Value.ofJson, Value.ofJsonItems, admits, List.all_cons, List.all_nil,
        admitted, Bool.and_true]
  | dict item induction =>
      obtain ⟨admitted, -⟩ := induction sound
      refine ⟨?_, by simp [sample, Value.ofJson]⟩
      simp only [sample, Value.ofJson, Value.ofJsonMembers, admits, List.all_cons, List.all_nil,
        admitted, Bool.and_true]
  | file => cases sound
  | any => exact ⟨rfl, by simp [sample, Value.ofJson]⟩
  | union members induction =>
      cases members with
      | nil => cases sound
      | cons first rest =>
          have first_sound := nestedDefect?_of_mem sound (List.mem_cons_self)
          obtain ⟨admitted, given⟩ := induction first List.mem_cons_self first_sound
          refine ⟨?_, given⟩
          rw [admits, anyAdmits_iff]
          exact ⟨first, List.mem_cons_self, admitted⟩

end Shape

namespace Param

variable {p : Param} {name : String}

/-- The request supplies the parameter and nothing else: with a text under the name that it is
looked up by, or with a body. -/
inductive Supplies (p : Param) (name : String) : RequestInputs → Prop
  | text {source : TextSource} (source_eq : p.source = source.toSource) (text : String) :
      Supplies p name (.ofOperations [.set source (p.lookupName name) text])
  | body (source_eq : p.source = .json) (document : Json) : Supplies p name (.ofBody document)

/-- The request gives the parameter a raw value that is coerced to one of the declared shape. -/
structure GivenInShape (p : Param) (name : String) (provider : Provider) (raw value : Value) :
    Prop where
  given : p.IsGiven name provider raw
  coerces : p.Coerces raw value
  admitted : p.shape.admits value = true

theorem exists_toSource_eq {source : Source} (textual : source.isTextBearing = true) :
    ∃ textSource : TextSource, source = textSource.toSource := by
  cases source with
  | route => exact ⟨.route, rfl⟩
  | query => exact ⟨.query, rfl⟩
  | form => exact ⟨.form, rfl⟩
  | header => exact ⟨.header, rfl⟩
  | json | file => cases textual

theorem lookup_ofOperations_set (source : TextSource) (key text : String) :
    (RequestInputs.ofOperations [.set source key text]).lookup source.toSource key =
      some (.str text) := by
  rw [RequestInputs.ofOperations, List.foldl_cons, List.foldl_nil, RequestInputs.lookup_toSource,
    RequestInputs.Operation.texts_apply_set, Texts.get?, Texts.lookup_set, if_pos rfl,
    Option.map_some]

/-- The sample text is read as the first choice, if it is converted at all. -/
theorem exists_coerces_sampleText (p : Param) :
    ∃ value, p.Coerces (.str p.shape.sampleText) value := by
  rcases p.coerces_text_or_unread p.shape.sampleText with coerced | ⟨target, converts, unread⟩
  · exact coerced
  · have text_eq : p.shape.sampleText = target.sampleText := by
      rw [Shape.sampleText, converts.first_choice]
    have read := target.isSome_read?_sampleText
    rw [← text_eq, unread] at read
    cases read

theorem exists_text_supplied (textual : p.source.isTextBearing = true) (name : String) :
    ∃ r, p.Supplies name r ∧ ∃ raw value, p.GivenInShape name r.provider raw value := by
  obtain ⟨source, source_eq⟩ := exists_toSource_eq textual
  obtain ⟨value, coerces⟩ := p.exists_coerces_sampleText
  have supplied : (RequestInputs.ofOperations
      [.set source (p.lookupName name) p.shape.sampleText]).lookup p.source (p.lookupName name) =
        some (.str p.shape.sampleText) := by
    rw [source_eq]
    exact lookup_ofOperations_set source _ _
  exact ⟨_, .text source_eq p.shape.sampleText, _, value, isGiven_of_lookup textual supplied,
    coerces, admits_of_coerces_text textual coerces⟩

/-- Outside of uploads the shape of a parameter has no defect below the top. -/
theorem nestedDefect?_eq_none (p : Param) (not_upload : p.source ≠ .file) :
    p.shape.nestedDefect? = none := by
  have shape_sound := (p.toDeclaration.defect?_eq_none_iff.mp p.sound).1
  rw [Declaration.shapeDefect?_eq_none_iff] at shape_sound
  obtain ⟨no_defect, no_file, -⟩ := shape_sound.resolve_left not_upload
  rw [Shape.nestedDefect?_eq_none_iff]
  exact (Shape.faultless_iff p.shape).mp ⟨no_defect, no_file⟩

theorem exists_body_supplied (from_body : p.source = .json) (name : String) :
    ∃ r, p.Supplies name r ∧ ∃ raw value, p.GivenInShape name r.provider raw value := by
  have not_upload : p.source ≠ .file := by simp [from_body]
  obtain ⟨admitted, not_null⟩ := Shape.admits_ofJson_sample (p.nestedDefect?_eq_none not_upload)
  have found : (RequestInputs.ofBody (.object [(name, p.shape.sample)])).lookup .json name =
      some (.ofJson p.shape.sample) := by
    rw [RequestInputs.lookup_ofBody, Json.member?, List.lookup_cons_self, Option.map_some]
  exact ⟨_, .body from_body (.object [(name, p.shape.sample)]), _, _,
    (isGiven_iff_of_json from_body _).mpr ⟨found, not_null⟩,
    (coerces_iff_of_json from_body _ _).mpr rfl, admitted⟩

theorem exists_supplied (p : Param) (not_upload : p.source ≠ .file) (name : String) :
    ∃ r, p.Supplies name r ∧ ∃ raw value, p.GivenInShape name r.provider raw value := by
  by_cases from_body : p.source = .json
  · exact exists_body_supplied from_body name
  · have textual : p.source.isTextBearing = true := by
      cases source_eq : p.source <;> simp_all [Source.isTextBearing]
    exact exists_text_supplied textual name

/-! ## Acceptance -/

/-- A given value of the declared shape is accepted where no rule can refuse it. -/
theorem check_single_of_given {provider : Provider} (no_rules : p.rules = []) {raw value : Value}
    (given : p.GivenInShape name provider raw value) (nonempty : name ≠ "") :
    ((ParamSet.single name p nonempty).check provider).result = .ok ⟨[(name, some value)]⟩ := by
  have has_shape := p.hasShape_of_given name provider given.given given.coerces
    (.inr given.admitted)
  have accepted : p.Outcome name provider (.ok (some value)) :=
    .accepted (.given given.given given.coerces) has_shape (by simp [no_rules])
  exact (ParamSet.check_single_eq_iff provider name p nonempty (.ok (some value))).mpr accepted

end Param

namespace Declaration

variable {d : Declaration} {name : String}

/-- A declaration that is built makes a set by itself under any name that is not empty. -/
theorem build_declared_single {p : Param} (built : d.build.result = .ok p) (nonempty : name ≠ "") :
    (ParamSet.Builder.empty.declare name d).result.build.result =
      .ok (ParamSet.single name p nonempty) := by
  have fresh : name ∉ ParamSet.empty.names := nofun
  have pushed : ParamSet.empty.pushAll [(name, .ok p)] = .ok (ParamSet.single name p nonempty) := by
    rw [ParamSet.pushAll, dif_neg nonempty, dif_neg fresh]
    rfl
  simp only [ParamSet.Builder.declare, Logged.result_bind, Logged.result_pure, built,
    ParamSet.Builder.build, ParamSet.Builder.empty, List.nil_append, pushed]

/-- Every declaration outside of uploads that is built, without rules, can be satisfied: the set
that it makes by itself accepts a request which supplies it with a text, or with a body where bodies
are declared, and the argument is what that text or body is coerced to. -/
theorem exists_accepted_request {p : Param} (built : d.build.result = .ok p)
    (not_upload : d.source ≠ .file) (no_rules : d.rules = []) (nonempty : name ≠ "") :
    ∃ set, (ParamSet.Builder.empty.declare name d).result.build.result = .ok set ∧
      ∃ r, p.Supplies name r ∧ ∃ raw value, p.IsGiven name r.provider raw ∧ p.Coerces raw value ∧
        (set.check r.provider).result = .ok ⟨[(name, some value)]⟩ := by
  have declared : p.toDeclaration = d := ((d.build_eq_ok_iff p).mp built).2
  subst declared
  obtain ⟨r, supplies, raw, value, given⟩ := p.exists_supplied not_upload name
  exact ⟨_, build_declared_single built nonempty, r, supplies, raw, value, given.given,
    given.coerces, Param.check_single_of_given no_rules given nonempty⟩

end Declaration

/-- Lists of mappings or a text, with a default that must not stand in for what is given. -/
def labels : Declaration :=
  { Declaration.ofSource .json
      (.union [.union [.list (.dict (.union [.any, .scalar .int]))], .scalar .str]) with
    default := some (.str "none")
    optional := true }

theorem labels_sound : labels.defect? = none := rfl

/-- A body with labels is accepted, and the labels are its own. -/
theorem exists_accepted_request_labels :
    labels.build.result = .ok ⟨labels, labels_sound⟩ ∧ labels.source ≠ .file ∧ labels.rules = [] ∧
      ∃ set, (ParamSet.Builder.empty.declare "labels" labels).result.build.result = .ok set ∧
        ∃ r, Param.Supplies ⟨labels, labels_sound⟩ "labels" r ∧
          ∃ raw value, Param.IsGiven ⟨labels, labels_sound⟩ "labels" r.provider raw ∧
            Param.Coerces ⟨labels, labels_sound⟩ raw value ∧
              (set.check r.provider).result = .ok ⟨[("labels", some value)]⟩ := by
  have built : labels.build.result = .ok ⟨labels, labels_sound⟩ := rfl
  have not_upload : labels.source ≠ .file := nofun
  exact ⟨built, not_upload, rfl,
    Declaration.exists_accepted_request built not_upload rfl (by decide)⟩

end RequestParams
