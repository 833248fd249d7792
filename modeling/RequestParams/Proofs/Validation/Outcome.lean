import RequestParams.Proofs.Param.Soundness
import RequestParams.Validation

/-!
# What becomes of one parameter

A parameter is absent, accepted or refused, and refused for one of four reasons. `Param.Outcome`
states the condition of each of these six ends in terms of what the provider gives, independently
of the order in which resolution looks for them. The main theorem says that resolution ends as the
relation allows and in no other way.
-/

namespace RequestParams

/-- Attachments that count as no upload. -/
def IsBlankUpload (files : List Attachment) : Prop :=
  files = [] ∨ ∃ file, files = [file] ∧ file.filename = ""

theorem uploadValue?_eq_none_iff (upload : Option (List Attachment)) :
    uploadValue? upload = none ↔
      upload = none ∨ ∃ files, upload = some files ∧ IsBlankUpload files := by
  match upload with
  | none => simp [uploadValue?]
  | some [] => simp [uploadValue?, IsBlankUpload]
  | some [file] => simp [uploadValue?, IsBlankUpload]
  | some (first :: second :: rest) => simp [uploadValue?, IsBlankUpload]

theorem uploadValue?_eq_some_iff (upload : Option (List Attachment)) (value : Value) :
    uploadValue? upload = some value ↔
      ∃ files, upload = some files ∧ ¬IsBlankUpload files ∧ value = .files files := by
  match upload with
  | none => simp [uploadValue?]
  | some [] => simp [uploadValue?, IsBlankUpload]
  | some [file] => simp [uploadValue?, IsBlankUpload, @eq_comm Value]
  | some (first :: second :: rest) => simp [uploadValue?, IsBlankUpload, @eq_comm Value]

theorem presentValue?_eq_none_iff (found : Option Value) :
    presentValue? found = none ↔ found = none ∨ found = some .null := by
  match found with
  | none => simp [presentValue?]
  | some value => cases value <;> simp [presentValue?]

theorem presentValue?_eq_some_iff (found : Option Value) (value : Value) :
    presentValue? found = some value ↔ found = some value ∧ value ≠ .null := by
  match found with
  | none => simp [presentValue?]
  | some other => cases other <;> cases value <;> simp [presentValue?]

namespace Param

variable (p : Param) (name : String) (provider : Provider)

/-! ## What a provider gives -/

/-- The provider gives nothing usable: no value or null, or an upload that counts as none. -/
def IsAbsent : Prop :=
  if p.source = .file then
    provider.files name = none ∨ ∃ files, provider.files name = some files ∧ IsBlankUpload files
  else
    provider.lookup p.source (p.lookupName name) = none ∨
      provider.lookup p.source (p.lookupName name) = some .null

/-- The provider gives this value. -/
def IsGiven (raw : Value) : Prop :=
  if p.source = .file then
    ∃ files, provider.files name = some files ∧ ¬IsBlankUpload files ∧ raw = .files files
  else provider.lookup p.source (p.lookupName name) = some raw ∧ raw ≠ .null

theorem rawValue?_eq_none_iff : p.rawValue? name provider = none ↔ p.IsAbsent name provider := by
  unfold rawValue? IsAbsent
  split
  · exact uploadValue?_eq_none_iff _
  · exact presentValue?_eq_none_iff _

theorem rawValue?_eq_some_iff (raw : Value) :
    p.rawValue? name provider = some raw ↔ p.IsGiven name provider raw := by
  unfold rawValue? IsGiven
  split
  · exact uploadValue?_eq_some_iff _ raw
  · exact presentValue?_eq_some_iff _ raw

/-- The provider gives a value or nothing usable. -/
theorem absent_or_given :
    p.IsAbsent name provider ∨ ∃ raw, p.IsGiven name provider raw := by
  cases raw_eq : p.rawValue? name provider with
  | none => exact .inl ((p.rawValue?_eq_none_iff name provider).mp raw_eq)
  | some raw => exact .inr ⟨raw, (p.rawValue?_eq_some_iff name provider raw).mp raw_eq⟩

/-! ## Coercion -/

/-- Text given to the parameter is converted to this scalar. -/
structure ConvertsTo (target : Scalar) : Prop where
  /-- The source supplies text. -/
  source_mem : p.source ∈ [Source.route, .query, .form, .header]
  /-- The scalar is the first choice of the shape. -/
  first_choice : p.shape.firstChoice = .scalar target
  /-- Text is not converted to text. -/
  target_ne_str : target ≠ .str

/-- The value that a raw value is coerced to. -/
inductive Coerces : Value → Value → Prop
  /-- Text is read as the scalar that it is converted to. -/
  | converted {text : String} {target : Scalar} {value : Value}
      (converts : p.ConvertsTo target) (read : target.read? text = some value) :
      Coerces (.str text) value
  /-- All else stays as it is. -/
  | unchanged {raw : Value}
      (kept : ∀ text, raw = .str text → ∀ target, ¬p.ConvertsTo target) :
      Coerces raw raw

theorem isTextBearing_iff (source : Source) :
    source.isTextBearing = true ↔ source ∈ [Source.route, .query, .form, .header] := by
  cases source <;> simp [Source.isTextBearing]

theorem coercionTarget?_eq_some_iff (shape : Shape) (target : Scalar) :
    shape.coercionTarget? = some target ↔ shape.firstChoice = .scalar target ∧ target ≠ .str := by
  unfold Shape.coercionTarget?
  split <;> simp_all
  · rintro rfl
    assumption

theorem convertsTo_iff (target : Scalar) :
    p.ConvertsTo target ↔
      p.source.isTextBearing = true ∧ p.shape.coercionTarget? = some target := by
  rw [isTextBearing_iff, coercionTarget?_eq_some_iff]
  constructor
  · rintro ⟨source_mem, first_choice, target_ne_str⟩
    exact ⟨source_mem, first_choice, target_ne_str⟩
  · rintro ⟨source_mem, first_choice, target_ne_str⟩
    exact ⟨source_mem, first_choice, target_ne_str⟩

/-- Text that has a target is read as that target, which is reported, or the conversion fails. -/
theorem coerce_text_eq {target : Scalar} (converts : p.ConvertsTo target) (text field : String) :
    coerce (.str text) p.shape p.source field =
      match target.read? text with
      | some value => ⟨.ok value, [.coerced field target], []⟩
      | none => ⟨.error (.conversion p.source field target text), [], []⟩ := by
  obtain ⟨bearing, target_eq⟩ := (p.convertsTo_iff target).mp converts
  simp only [coerce, bearing, coerceText, target_eq]
  cases target.read? text <;> rfl

theorem coerce_of_converts {target : Scalar} (converts : p.ConvertsTo target)
    (text field : String) :
    (coerce (.str text) p.shape p.source field).result =
      match target.read? text with
      | some value => .ok value
      | none => .error (.conversion p.source field target text) := by
  rw [p.coerce_text_eq converts]
  cases target.read? text <;> rfl

/-- A raw value without a target stays as it is, and nothing is reported. -/
theorem coerce_eq_pure {raw : Value}
    (kept : ∀ text, raw = .str text → ∀ target, ¬p.ConvertsTo target) (field : String) :
    coerce raw p.shape p.source field = pure (.ok raw) := by
  unfold coerce
  split
  · rename_i text bearing
    have no_target : p.shape.coercionTarget? = none := by
      refine Option.eq_none_iff_forall_ne_some.mpr fun target target_eq => ?_
      exact kept text rfl target ((p.convertsTo_iff target).mpr ⟨bearing, target_eq⟩)
    simp only [coerceText, no_target]
  · rfl

theorem coerce_of_kept {raw : Value}
    (kept : ∀ text, raw = .str text → ∀ target, ¬p.ConvertsTo target) (field : String) :
    (coerce raw p.shape p.source field).result = .ok raw := by
  rw [p.coerce_eq_pure kept, Logged.result_pure]

/-- A raw value that is coerced to a value, as the relation says. -/
theorem coerce_eq_ok {raw value : Value} (coerces : p.Coerces raw value) (field : String) :
    (coerce raw p.shape p.source field).result = .ok value := by
  cases coerces with
  | converted converts read => rw [p.coerce_of_converts converts, read]
  | unchanged kept => exact p.coerce_of_kept kept field

/-! ## The six ends -/

/-- The value that comes before the rules: the one given, after coercion, or else the default. -/
inductive Candidate : Value → Prop
  | given {raw value : Value} (given : p.IsGiven name provider raw)
      (coerces : p.Coerces raw value) : Candidate value
  | default {value : Value} (absent : p.IsAbsent name provider)
      (default_eq : p.default = some value) : Candidate value

/-- The value is an upload where one is declared, and has the declared shape elsewhere. -/
def HasShape (value : Value) : Prop :=
  if p.source = .file then ∃ files, value = .files files else p.shape.admits value = true

/-- What becomes of the parameter: absent, a value, or an error, each under its condition. -/
inductive Outcome : Except ValidationError (Option Value) → Prop
  /-- Nothing is given, nothing stands in for it, and the parameter is required. -/
  | missing (absent : p.IsAbsent name provider) (no_default : p.default = none)
      (required : p.optional = false) :
      Outcome (.error (.missing p.source (p.lookupName name)))
  /-- The text given is not one of the scalar it is converted to. -/
  | unconverted {text : String} {target : Scalar} (given : p.IsGiven name provider (.str text))
      (converts : p.ConvertsTo target) (unread : target.read? text = none) :
      Outcome (.error (.conversion p.source (p.lookupName name) target text))
  /-- The value given does not have the declared shape after coercion. -/
  | mismatched {raw value : Value} (not_upload : p.source ≠ .file)
      (given : p.IsGiven name provider raw) (coerces : p.Coerces raw value)
      (not_admitted : p.shape.admits value = false) :
      Outcome (.error (.typeMismatch p.source (p.lookupName name) p.shape value.kindName))
  /-- A rule refuses the value, and all rules before it accept it. -/
  | refused {value : Value} {rule : Rule} {before after : List Rule}
      (candidate : p.Candidate name provider value) (has_shape : p.HasShape value)
      (rules_eq : p.rules = before ++ rule :: after)
      (before_accept : ∀ earlier ∈ before, earlier.accepts value = true)
      (refuses : rule.accepts value = false) :
      Outcome
        (.error (.ruleViolation p.source (p.lookupName name) rule.name rule.violation))
  /-- Nothing is given, nothing stands in for it, and nothing is required. -/
  | absent (absent : p.IsAbsent name provider) (no_default : p.default = none)
      (optional : p.optional = true) : Outcome (.ok none)
  /-- The value has the declared shape and passes every rule. -/
  | accepted {value : Value} (candidate : p.Candidate name provider value)
      (has_shape : p.HasShape value)
      (rules_accept : ∀ rule ∈ p.rules, rule.accepts value = true) : Outcome (.ok (some value))

/-! ## Rules -/

theorem firstRefusal?_result (value : Value) (rules : List Rule) :
    (firstRefusal? value rules).result = rules.find? fun rule => !rule.accepts value := by
  induction rules with
  | nil => rfl
  | cons rule rules induction =>
      simp only [firstRefusal?, Logged.result_bind, Rule.test, List.find?_cons]
      cases rule.accepts value with
      | false => rfl
      | true => simpa using induction

theorem checkRules_of_accept {value : Value}
    (rules_accept : ∀ rule ∈ p.rules, rule.accepts value = true) :
    (p.checkRules name value).result = .ok (some value) := by
  have no_refusal : p.rules.find? (fun rule => !rule.accepts value) = none := by
    simpa using rules_accept
  simp only [checkRules, Logged.result_bind, firstRefusal?_result, no_refusal, Logged.result_pure]

theorem checkRules_of_refuses {value : Value} {rule : Rule} {before after : List Rule}
    (rules_eq : p.rules = before ++ rule :: after)
    (before_accept : ∀ earlier ∈ before, earlier.accepts value = true)
    (refuses : rule.accepts value = false) :
    (p.checkRules name value).result =
      .error (.ruleViolation p.source (p.lookupName name) rule.name rule.violation) := by
  have refusal : p.rules.find? (fun rule => !rule.accepts value) = some rule := by
    refine List.find?_eq_some_iff_append.mpr ⟨by simp [refuses], before, after, rules_eq, ?_⟩
    simpa using before_accept
  simp only [checkRules, Logged.result_bind, firstRefusal?_result, refusal, Logged.result_pure]

/-- A value that comes before the rules is accepted by all or refused by the first that does. -/
theorem outcome_checkRules {value : Value} (candidate : p.Candidate name provider value)
    (has_shape : p.HasShape value) :
    p.Outcome name provider (p.checkRules name value).result := by
  cases refusal : p.rules.find? fun rule => !rule.accepts value with
  | none =>
      have rules_accept : ∀ rule ∈ p.rules, rule.accepts value = true := by
        simpa using refusal
      rw [p.checkRules_of_accept name rules_accept]
      exact .accepted candidate has_shape rules_accept
  | some rule =>
      obtain ⟨refuses, before, after, rules_eq, before_accept⟩ :=
        List.find?_eq_some_iff_append.mp refusal
      simp only [Bool.not_eq_true', Bool.not_not] at refuses before_accept
      rw [p.checkRules_of_refuses name rules_eq before_accept refuses]
      exact .refused candidate has_shape rules_eq before_accept refuses

/-! ## Resolution -/

theorem resolve_of_given {raw : Value} (given : p.IsGiven name provider raw) :
    p.resolve name provider = p.resolveGiven name raw := by
  rw [resolve, (p.rawValue?_eq_some_iff name provider raw).mpr given]

theorem resolve_of_absent (absent : p.IsAbsent name provider) :
    p.resolve name provider = p.resolveMissing name := by
  rw [resolve, (p.rawValue?_eq_none_iff name provider).mpr absent]

/-- A given value keeps its place as an upload, which nothing converts, or else has its shape. -/
theorem hasShape_of_given {raw value : Value} (given : p.IsGiven name provider raw)
    (coerces : p.Coerces raw value) (admitted : p.source = .file ∨ p.shape.admits value = true) :
    p.HasShape value := by
  unfold HasShape
  split
  · rename_i upload
    rw [IsGiven, if_pos upload] at given
    obtain ⟨files, -, -, rfl⟩ := given
    cases coerces with
    | unchanged => exact ⟨files, rfl⟩
  · rename_i not_upload
    exact admitted.resolve_left not_upload

theorem hasShape_default {value : Value} (default_eq : p.default = some value) :
    p.HasShape value := by
  -- A request does not compare its defaults with the shape: that they have it was checked before.
  unfold HasShape
  split
  · rename_i upload
    rw [p.default_eq_none_of_file upload] at default_eq
    cases default_eq
  · exact p.admits_default default_eq

theorem checkShape_of_hasShape {value : Value} (has_shape : p.HasShape value) :
    p.checkShape name value = .ok value := by
  unfold HasShape at has_shape
  split at has_shape
  · rename_i upload
    exact if_pos (.inl upload)
  · exact if_pos (.inr has_shape)

theorem resolveGiven_of_hasShape {raw value : Value} (coerces : p.Coerces raw value)
    (has_shape : p.HasShape value) :
    (p.resolveGiven name raw).result = (p.checkRules name value).result := by
  simp only [resolveGiven, Logged.result_bind, p.coerce_eq_ok coerces,
    p.checkShape_of_hasShape name has_shape]

theorem resolveGiven_of_not_admitted {raw value : Value} (coerces : p.Coerces raw value)
    (not_upload : p.source ≠ .file) (not_admitted : p.shape.admits value = false) :
    (p.resolveGiven name raw).result =
      .error (.typeMismatch p.source (p.lookupName name) p.shape value.kindName) := by
  have checked : p.checkShape name value =
      .error (.typeMismatch p.source (p.lookupName name) p.shape value.kindName) :=
    if_neg (by simp [not_upload, not_admitted])
  simp only [resolveGiven, Logged.result_bind, p.coerce_eq_ok coerces, checked, Logged.result_pure]

theorem resolveGiven_of_unread {text : String} {target : Scalar}
    (converts : p.ConvertsTo target) (unread : target.read? text = none) :
    (p.resolveGiven name (.str text)).result =
      .error (.conversion p.source (p.lookupName name) target text) := by
  simp only [resolveGiven, Logged.result_bind, p.coerce_of_converts converts, unread,
    Logged.result_pure]

/-- A raw value is converted to a scalar, or it fails to convert, or it stays as it is. -/
theorem coerces_or_unread (raw : Value) :
    (∃ value, p.Coerces raw value) ∨
      ∃ text target, raw = .str text ∧ p.ConvertsTo target ∧ target.read? text = none := by
  by_cases convertible : ∃ text target, raw = .str text ∧ p.ConvertsTo target
  · obtain ⟨text, target, rfl, converts⟩ := convertible
    cases read : target.read? text with
    | none => exact .inr ⟨text, target, rfl, converts, read⟩
    | some value => exact .inl ⟨value, .converted converts read⟩
  · refine .inl ⟨raw, .unchanged fun text raw_eq target converts => ?_⟩
    exact convertible ⟨text, target, raw_eq, converts⟩

theorem outcome_resolveGiven {raw : Value} (given : p.IsGiven name provider raw) :
    p.Outcome name provider (p.resolveGiven name raw).result := by
  rcases p.coerces_or_unread raw with ⟨value, coerces⟩ | ⟨text, target, rfl, converts, unread⟩
  · by_cases admitted : p.source = .file ∨ p.shape.admits value = true
    · have has_shape := p.hasShape_of_given name provider given coerces admitted
      rw [p.resolveGiven_of_hasShape name coerces has_shape]
      exact p.outcome_checkRules name provider (.given given coerces) has_shape
    · obtain ⟨not_upload, not_admitted⟩ := not_or.mp admitted
      rw [Bool.not_eq_true] at not_admitted
      rw [p.resolveGiven_of_not_admitted name coerces not_upload not_admitted]
      exact .mismatched not_upload given coerces not_admitted
  · rw [p.resolveGiven_of_unread name converts unread]
    exact .unconverted given converts unread

theorem outcome_resolveMissing (absent : p.IsAbsent name provider) :
    p.Outcome name provider (p.resolveMissing name).result := by
  unfold resolveMissing
  split
  · rename_i value default_eq
    exact p.outcome_checkRules name provider (.default absent default_eq)
      (p.hasShape_default default_eq)
  · rename_i no_default
    split
    · rename_i optional
      exact .absent absent no_default optional
    · rename_i required
      exact .missing absent no_default (by simpa using required)

/-- Resolution ends in a way that the relation allows. -/
theorem outcome_resolve : p.Outcome name provider (p.resolve name provider).result := by
  rcases p.absent_or_given name provider with absent | ⟨raw, given⟩
  · rw [p.resolve_of_absent name provider absent]
    exact p.outcome_resolveMissing name provider absent
  · rw [p.resolve_of_given name provider given]
    exact p.outcome_resolveGiven name provider given

theorem resolve_of_candidate {value : Value} (candidate : p.Candidate name provider value)
    (has_shape : p.HasShape value) :
    (p.resolve name provider).result = (p.checkRules name value).result := by
  cases candidate with
  | given given coerces =>
      rw [p.resolve_of_given name provider given]
      exact p.resolveGiven_of_hasShape name coerces has_shape
  | default absent default_eq =>
      rw [p.resolve_of_absent name provider absent, resolveMissing, default_eq]

/-- Each end that the relation allows is the one in which resolution ends. -/
theorem resolve_of_outcome {outcome : Except ValidationError (Option Value)}
    (allowed : p.Outcome name provider outcome) : (p.resolve name provider).result = outcome := by
  cases allowed with
  | missing absent no_default required =>
      rw [p.resolve_of_absent name provider absent]
      simp [resolveMissing, no_default, required]
  | unconverted given converts unread =>
      rw [p.resolve_of_given name provider given]
      exact p.resolveGiven_of_unread name converts unread
  | mismatched not_upload given coerces not_admitted =>
      rw [p.resolve_of_given name provider given]
      exact p.resolveGiven_of_not_admitted name coerces not_upload not_admitted
  | refused candidate has_shape rules_eq before_accept refuses =>
      rw [p.resolve_of_candidate name provider candidate has_shape]
      exact p.checkRules_of_refuses name rules_eq before_accept refuses
  | absent absent no_default optional =>
      rw [p.resolve_of_absent name provider absent]
      simp [resolveMissing, no_default, optional]
  | accepted candidate has_shape rules_accept =>
      rw [p.resolve_of_candidate name provider candidate has_shape]
      exact p.checkRules_of_accept name rules_accept

/-- Resolution ends as the relation allows and in no other way. -/
theorem resolve_result_iff (outcome : Except ValidationError (Option Value)) :
    (p.resolve name provider).result = outcome ↔ p.Outcome name provider outcome := by
  constructor
  · rintro rfl
    exact p.outcome_resolve name provider
  · exact p.resolve_of_outcome name provider

end Param

end RequestParams
