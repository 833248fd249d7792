import RequestParams.Proofs.Shape.FirstChoice
import RequestParams.Proofs.Validation.RuleSafety
import RequestParams.Proofs.Validation.Verdict
import RequestParams.RequestInputs

/-!
# Parameters that are given as text

The path, the query, a form and the headers of a request hold texts only. What becomes of such a
text depends on the first choice of the declared shape alone: the text stays as it is, or is read as
a scalar, or that fails. A later member of a union has no say, and the declared shape, which admits
its first choice, never refuses the outcome.
-/

namespace RequestParams

/-! ## Texts of a store -/

theorem Texts.exists_str_of_get? {texts : Texts} {key : String} {value : Value}
    (found : texts.get? key = some value) : ∃ text, value = .str text := by
  obtain ⟨text, -, rfl⟩ := Option.map_eq_some_iff.mp found
  exact ⟨text, rfl⟩

/-- Whatever has been put into a store, its sources of texts hold nothing else. -/
theorem RequestInputs.exists_str_of_lookup {r : RequestInputs} {source : Source}
    (textual : source.isTextBearing = true) {key : String} {value : Value}
    (found : r.lookup source key = some value) : ∃ text, value = .str text := by
  cases source with
  | route | query | form | header => exact Texts.exists_str_of_get? found
  | json | file => cases textual

/-- What a text is read as is a scalar of that kind. -/
theorem Scalar.admits_of_read {target : Scalar} {text : String} {value : Value}
    (read : target.read? text = some value) : target.admits value = true := by
  cases target with
  | int | float | bool =>
      obtain ⟨content, -, rfl⟩ := Option.map_eq_some_iff.mp read
      rfl
  | str =>
      obtain rfl := Option.some.inj read
      rfl

namespace Param

variable {p q : Param} {name : String} {r : RequestInputs}

/-! ## What is given and how it is coerced -/

theorem isGiven_iff_of_textual (textual : p.source.isTextBearing = true) (raw : Value) :
    p.IsGiven name r.provider raw ↔
      r.lookup p.source (p.lookupName name) = some raw ∧ raw ≠ .null := by
  have not_upload : p.source ≠ .file := by
    intro upload
    rw [upload] at textual
    cases textual
  rw [IsGiven, if_neg not_upload]
  exact Iff.rfl

theorem isGiven_of_lookup (textual : p.source.isTextBearing = true) {text : String}
    (supplied : r.lookup p.source (p.lookupName name) = some (.str text)) :
    p.IsGiven name r.provider (.str text) :=
  (isGiven_iff_of_textual textual _).mpr ⟨supplied, by simp⟩

theorem exists_str_of_isGiven (textual : p.source.isTextBearing = true) {raw : Value}
    (given : p.IsGiven name r.provider raw) : ∃ text, raw = .str text :=
  RequestInputs.exists_str_of_lookup textual ((isGiven_iff_of_textual textual raw).mp given).1

/-- A text is coerced to a value, or it has a target that it cannot be read as. -/
theorem coerces_text_or_unread (p : Param) (text : String) :
    (∃ value, p.Coerces (.str text) value) ∨
      ∃ target, p.ConvertsTo target ∧ target.read? text = none := by
  rcases p.coerces_or_unread (.str text) with coerced | ⟨raw, target, raw_eq, converts, unread⟩
  · exact .inl coerced
  · obtain rfl := Value.str.inj raw_eq
    exact .inr ⟨target, converts, unread⟩

/-- A text that nothing converts is given to a shape whose first choice is text or anything. -/
theorem firstChoice_of_kept (textual : p.source.isTextBearing = true)
    (kept : ∀ target, ¬p.ConvertsTo target) :
    p.shape.firstChoice = .any ∨ p.shape.firstChoice = .scalar .str := by
  rcases p.firstChoice_of_isTextBearing textual with any | ⟨kind, first_choice⟩
  · exact .inl any
  · by_cases text : kind = .str
    · exact .inr (text ▸ first_choice)
    · exact absurd ⟨(isTextBearing_iff _).mp textual, first_choice, text⟩ (kept kind)

/-- What a text is coerced to has the first choice of the shape, and hence the shape. -/
theorem admits_of_coerces_text (textual : p.source.isTextBearing = true) {text : String}
    {value : Value} (coerces : p.Coerces (.str text) value) : p.shape.admits value = true := by
  apply Shape.admits_of_firstChoice_admits
  cases coerces with
  | converted converts read =>
      rw [converts.first_choice, Shape.admits]
      exact Scalar.admits_of_read read
  | unchanged kept =>
      rcases firstChoice_of_kept textual (kept text rfl) with any | scalar
      · rw [any, Shape.admits]
      · rw [scalar]
        rfl

/-- A parameter that is given as text is never refused for its shape. -/
theorem not_outcome_typeMismatch (textual : p.source.isTextBearing = true) (source : Source)
    (field : String) (expected : Shape) (found : String) :
    ¬p.Outcome name r.provider (.error (.typeMismatch source field expected found)) := by
  intro mismatched
  cases mismatched with
  | mismatched _ given coerces not_admitted =>
      obtain ⟨text, rfl⟩ := exists_str_of_isGiven textual given
      rw [admits_of_coerces_text textual coerces] at not_admitted
      cases not_admitted

/-! ## What the first choice decides -/

/-- The parameter ends as its rules decide on this value, and they test no other. -/
structure RulesDecideOn (p : Param) (name : String) (provider : Provider) (value : Value) :
    Prop where
  /-- The result is that of the rules. -/
  result_eq : (p.resolve name provider).result = (p.checkRules name value).result
  /-- The tests are those of the rules. -/
  tests_eq : (p.resolve name provider).tests = (p.checkRules name value).tests

/-- What the first choice makes of a text, whatever else the shape is made of. -/
inductive FollowsFirstChoice (p : Param) (name : String) (provider : Provider) (text : String) :
    Prop
  /-- The rules are put to the text itself. -/
  | kept (first_choice : p.shape.firstChoice = .any ∨ p.shape.firstChoice = .scalar .str)
      (decided : p.RulesDecideOn name provider (.str text))
  /-- The rules are put to the scalar that the text is read as. -/
  | converted {target : Scalar} {value : Value}
      (first_choice : p.shape.firstChoice = .scalar target)
      (target_ne_str : target ≠ .str) (read : target.read? text = some value)
      (admitted : target.admits value = true) (decided : p.RulesDecideOn name provider value)
  /-- The text cannot be read, and no rule is tested. -/
  | unconverted {target : Scalar} (first_choice : p.shape.firstChoice = .scalar target)
      (target_ne_str : target ≠ .str) (unread : target.read? text = none)
      (result_eq : (p.resolve name provider).result =
        .error (.conversion p.source (p.lookupName name) target text))
      (tests_eq : (p.resolve name provider).tests = [])

/-- A text that is coerced to a value comes before the rules as that value. -/
theorem rulesDecideOn_of_coerces (textual : p.source.isTextBearing = true) {text : String}
    (supplied : r.lookup p.source (p.lookupName name) = some (.str text)) {value : Value}
    (coerces : p.Coerces (.str text) value) : p.RulesDecideOn name r.provider value := by
  have given := isGiven_of_lookup textual supplied
  have has_shape : p.HasShape value :=
    p.hasShape_of_given name r.provider given coerces
      (.inr (admits_of_coerces_text textual coerces))
  constructor
  · rw [p.resolve_of_given name r.provider given,
      p.resolveGiven_of_hasShape name coerces has_shape]
  · simp only [p.resolve_of_given name r.provider given, resolveGiven, Logged.tests_bind,
      coerce_tests, p.coerce_eq_ok coerces, p.checkShape_of_hasShape name has_shape,
      List.nil_append]

/-- A text that has a target and cannot be read as it fails before the rules. -/
theorem resolve_of_unread (textual : p.source.isTextBearing = true) {text : String}
    (supplied : r.lookup p.source (p.lookupName name) = some (.str text)) {target : Scalar}
    (converts : p.ConvertsTo target) (unread : target.read? text = none) :
    (p.resolve name r.provider).result =
      .error (.conversion p.source (p.lookupName name) target text) := by
  rw [p.resolve_of_given name r.provider (isGiven_of_lookup textual supplied),
    p.resolveGiven_of_unread name converts unread]

theorem tests_resolve_of_unread (textual : p.source.isTextBearing = true) {text : String}
    (supplied : r.lookup p.source (p.lookupName name) = some (.str text)) {target : Scalar}
    (converts : p.ConvertsTo target) (unread : target.read? text = none) :
    (p.resolve name r.provider).tests = [] := by
  rw [p.resolve_of_given name r.provider (isGiven_of_lookup textual supplied)]
  simp only [resolveGiven, Logged.tests_bind, coerce_tests, p.coerce_of_converts converts, unread,
    Logged.tests_pure, List.append_nil]

/-- A text that is supplied ends as its first choice says. -/
theorem followsFirstChoice (textual : p.source.isTextBearing = true) {text : String}
    (supplied : r.lookup p.source (p.lookupName name) = some (.str text)) :
    p.FollowsFirstChoice name r.provider text := by
  rcases p.coerces_text_or_unread text with ⟨value, coerces⟩ | ⟨target, converts, unread⟩
  · have decided := rulesDecideOn_of_coerces textual supplied coerces
    cases coerces with
    | converted converts read =>
        exact .converted converts.first_choice converts.target_ne_str read
          (Scalar.admits_of_read read) decided
    | unchanged kept => exact .kept (firstChoice_of_kept textual (kept text rfl)) decided
  · exact .unconverted converts.first_choice converts.target_ne_str unread
      (resolve_of_unread textual supplied converts unread)
      (tests_resolve_of_unread textual supplied converts unread)

/-! ## Parameters that treat texts alike -/

/-- The parameters have the same source, rules and first choice. -/
structure ReadsAlike (q p : Param) : Prop where
  /-- The values come from the same place. -/
  source_eq : q.source = p.source
  /-- The same rules are tested in the same order. -/
  rules_eq : q.rules = p.rules
  /-- The shapes, nested as they may be, have the same first choice. -/
  firstChoice_eq : q.shape.firstChoice = p.shape.firstChoice

namespace ReadsAlike

theorem lookupName_eq (alike : q.ReadsAlike p) (wireName_eq : q.wireName = p.wireName)
    (name : String) : q.lookupName name = p.lookupName name := by
  rw [lookupName, lookupName, alike.source_eq, wireName_eq]

theorem convertsTo_iff (alike : q.ReadsAlike p) (target : Scalar) :
    q.ConvertsTo target ↔ p.ConvertsTo target := by
  constructor
  · rintro ⟨source_mem, first_choice, target_ne_str⟩
    exact ⟨alike.source_eq ▸ source_mem, alike.firstChoice_eq ▸ first_choice, target_ne_str⟩
  · rintro ⟨source_mem, first_choice, target_ne_str⟩
    exact ⟨alike.source_eq ▸ source_mem, alike.firstChoice_eq ▸ first_choice, target_ne_str⟩

theorem coerces (alike : q.ReadsAlike p) {raw value : Value} (coerces : p.Coerces raw value) :
    q.Coerces raw value := by
  cases coerces with
  | converted converts read => exact .converted ((alike.convertsTo_iff _).mpr converts) read
  | unchanged kept =>
      exact .unchanged fun text raw_eq target converts =>
        kept text raw_eq target ((alike.convertsTo_iff target).mp converts)

variable {other : String}

theorem checkRules_eq (alike : q.ReadsAlike p)
    (same_name : q.lookupName other = p.lookupName name) (value : Value) :
    (q.checkRules other value).result = (p.checkRules name value).result := by
  simp only [checkRules, Logged.result_bind, alike.rules_eq, alike.source_eq, same_name]
  cases (firstRefusal? value p.rules).result <;> rfl

/-- A text looked up under the same name has the same result. -/
theorem resolve_eq (alike : q.ReadsAlike p) (same_name : q.lookupName other = p.lookupName name)
    (textual : p.source.isTextBearing = true) {text : String}
    (supplied : r.lookup p.source (p.lookupName name) = some (.str text)) :
    (q.resolve other r.provider).result = (p.resolve name r.provider).result := by
  have other_textual : q.source.isTextBearing = true := alike.source_eq ▸ textual
  have other_supplied : r.lookup q.source (q.lookupName other) = some (.str text) := by
    rw [alike.source_eq, same_name, supplied]
  -- Both coerce the text to one value, or both fail to read it as the same scalar.
  rcases p.coerces_text_or_unread text with ⟨value, coerces⟩ | ⟨target, converts, unread⟩
  · calc
      (q.resolve other r.provider).result = (q.checkRules other value).result :=
        (rulesDecideOn_of_coerces other_textual other_supplied (alike.coerces coerces)).result_eq
      _ = (p.checkRules name value).result := alike.checkRules_eq same_name value
      _ = (p.resolve name r.provider).result :=
        (rulesDecideOn_of_coerces textual supplied coerces).result_eq.symm
  · have other_converts := (alike.convertsTo_iff target).mpr converts
    calc
      (q.resolve other r.provider).result =
          .error (.conversion q.source (q.lookupName other) target text) :=
        resolve_of_unread other_textual other_supplied other_converts unread
      _ = .error (.conversion p.source (p.lookupName name) target text) := by
        rw [alike.source_eq, same_name]
      _ = (p.resolve name r.provider).result :=
        (resolve_of_unread textual supplied converts unread).symm

end ReadsAlike

end Param

namespace ParamSet

/-- An error about a shape is about a parameter from a body: texts are never refused for it. -/
theorem source_of_typeMismatch {set : ParamSet} {r : RequestInputs} {source : Source}
    {field : String} {expected : Shape} {found : String}
    (refused : (set.check r.provider).result =
      .error (.typeMismatch source field expected found)) : source.isTextBearing = false := by
  obtain ⟨name, p, -, fails⟩ := exists_outcome_of_check_eq_error refused
  obtain ⟨source_eq, -⟩ := Param.source_field_of_outcome fails
  rw [← Bool.not_eq_true]
  intro textual
  have declared_textual : p.source.isTextBearing = true := source_eq ▸ textual
  exact Param.not_outcome_typeMismatch declared_textual source field expected found fails

/-- A set in which a parameter stands for another with the same result has the same result. -/
theorem check_eq_of_resolve_eq {set other : ParamSet} {provider : Provider} {name : String}
    {p q : Param} {before after : List (String × Param)}
    (set_eq : set.entries = before ++ (name, p) :: after)
    (other_eq : other.entries = before ++ (name, q) :: after)
    (same_result : (q.resolve name provider).result = (p.resolve name provider).result) :
    (other.check provider).result = (set.check provider).result := by
  apply check_result_congr
  simp only [set_eq, other_eq, List.map_append, List.map_cons, namedResult, same_result]

/-- Whatever a store holds, no parameter that is given as text is refused for its shape. A text that
is supplied comes before the rules as it is where the first choice is text or anything; where it is
another scalar, the text is read as that scalar or refused as one that cannot be. Parameters with
the same source, rules and first choice have the same result for a text that they look up under the
same name, and stand for each other in any set if their wire names are the same. -/
theorem text_follows_firstChoice (r : RequestInputs) :
    (∀ (set : ParamSet) source field expected found,
      (set.check r.provider).result = .error (.typeMismatch source field expected found) →
        source ∉ [Source.route, .query, .form, .header]) ∧
    ∀ (p : Param) (name : String) (value : Value),
      p.source ∈ [Source.route, .query, .form, .header] →
      r.lookup p.source (p.lookupName name) = some value →
        (∃ text, value = .str text ∧ p.FollowsFirstChoice name r.provider text) ∧
        ∀ q : Param, q.source = p.source → q.rules = p.rules →
          q.shape.firstChoice = p.shape.firstChoice →
          (∀ otherName, q.lookupName otherName = p.lookupName name →
            (q.resolve otherName r.provider).result = (p.resolve name r.provider).result) ∧
          (q.wireName = p.wireName → ∀ (set other : ParamSet) before after,
            set.entries = before ++ (name, p) :: after →
            other.entries = before ++ (name, q) :: after →
            (other.check r.provider).result = (set.check r.provider).result) := by
  refine ⟨fun set source field expected found refused => ?_,
    fun p name value source_mem supplied => ?_⟩
  · rw [← Param.isTextBearing_iff, source_of_typeMismatch refused]
    simp
  · have textual := (Param.isTextBearing_iff p.source).mpr source_mem
    obtain ⟨text, rfl⟩ := RequestInputs.exists_str_of_lookup textual supplied
    refine ⟨⟨text, rfl, Param.followsFirstChoice textual supplied⟩, ?_⟩
    intro q source_eq rules_eq firstChoice_eq
    have alike : q.ReadsAlike p := ⟨source_eq, rules_eq, firstChoice_eq⟩
    refine ⟨fun otherName same_name => alike.resolve_eq same_name textual supplied, ?_⟩
    intro wireName_eq set other before after set_eq other_eq
    have same_name := alike.lookupName_eq wireName_eq name
    exact check_eq_of_resolve_eq set_eq other_eq (alike.resolve_eq same_name textual supplied)

end ParamSet

/-- A required parameter without rules. -/
def requiredParam (source : Source) (shape : Shape)
    (sound : (Declaration.ofSource source shape).defect? = none) : Param :=
  { Declaration.ofSource source shape with sound := sound }

/-- A key in the path that is an integer. -/
def integerKey : Param := requiredParam .route (.scalar .int) (by decide)

/-- A key in the path whose shape admits texts too, after its first choice of integers. -/
def looseKey : Param :=
  requiredParam .route (.union [.union [.scalar .int, .any], .scalar .str]) (by decide)

/-- A key before an age in the body. -/
def keyAndAge (key : Param) : ParamSet where
  entries := [("key", key), ("age", requiredParam .json (.scalar .int) (by decide))]
  names_nonempty := by simp
  names_nodup := by simp

/-- A request with a key that is a numeral and an age that is a text. -/
def writtenOutAge : RequestInputs :=
  (RequestInputs.empty.setRoute "key" "12").setJson (.object [("age", .string "thirty")])

/-- The age from the body does not have its shape; the key from the path is read as an integer,
although its shape would admit the text, and a key that is an integer can stand for it. -/
theorem text_follows_firstChoice_key :
    ((keyAndAge looseKey).check writtenOutAge.provider).result =
        .error (.typeMismatch .json "age" (.scalar .int) "str") ∧
      Source.json ∉ [Source.route, .query, .form, .header] ∧
      looseKey.source ∈ [Source.route, .query, .form, .header] ∧
      writtenOutAge.lookup looseKey.source (looseKey.lookupName "key") = some (.str "12") ∧
      (∃ text, Value.str "12" = .str text ∧
        looseKey.FollowsFirstChoice "key" writtenOutAge.provider text) ∧
      (looseKey.resolve "key" writtenOutAge.provider).result = .ok (some (.int 12)) ∧
      (integerKey.resolve "key" writtenOutAge.provider).result =
        (looseKey.resolve "key" writtenOutAge.provider).result ∧
      ((keyAndAge integerKey).check writtenOutAge.provider).result =
        ((keyAndAge looseKey).check writtenOutAge.provider).result := by
  have refused : ((keyAndAge looseKey).check writtenOutAge.provider).result =
      .error (.typeMismatch .json "age" (.scalar .int) "str") := rfl
  have source_mem : looseKey.source ∈ [Source.route, .query, .form, .header] := by decide
  have supplied : writtenOutAge.lookup looseKey.source (looseKey.lookupName "key") =
      some (.str "12") := rfl
  obtain ⟨not_textual, texts⟩ := ParamSet.text_follows_firstChoice writtenOutAge
  obtain ⟨follows, alike⟩ := texts looseKey "key" (.str "12") source_mem supplied
  obtain ⟨same_result, stands_for⟩ := alike integerKey rfl rfl rfl
  exact ⟨refused, not_textual _ _ _ _ _ refused, source_mem, supplied, follows, rfl,
    same_result "key" rfl, stands_for rfl (keyAndAge looseKey) (keyAndAge integerKey) [] _ rfl rfl⟩

end RequestParams
