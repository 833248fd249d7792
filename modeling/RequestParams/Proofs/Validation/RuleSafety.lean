import RequestParams.Proofs.Shape.Origins
import RequestParams.Proofs.Validation.Composition
import RequestParams.Proofs.Validation.Outcome

/-!
# Rules meet the kinds they apply to

While a request is checked, no rule of the library is put to a value of a kind that it does not
apply to. A parameter is built only if its rules apply to the origins of its shape, and a value
comes before the rules only if it has that shape, be it given, coerced or a default. Hence the
property that a rule tests, a length or a number or a text or files, is always there.
-/

namespace RequestParams

/-! ## Kinds of values and properties that rules read -/

/-- The value is of a kind that the rule applies to, or the rule applies to all kinds. -/
def Rule.MeetsKind (rule : Rule) (value : Value) : Prop :=
  rule.types = .any ∨
    ∃ origins origin, rule.types = .only origins ∧ value.origin? = some origin ∧ origin ∈ origins

/-- Whether a value has the property that a rule of the library reads off it. -/
def Rule.canRead : Rule → Value → Bool
  | minLength _, value | maxLength _, value => value.length?.isSome
  | min _, value | max _, value => value.number?.isSome
  | number, value | strip, value | isoDatetime, value | datetime _, value | email, value
  | phoneNumber, value | regex _, value => value.str?.isSome
  | fileExtension _ _, value | maxFileCount _, value | minFileCount _, value => value.files?.isSome
  | oneOf _ _, _ | custom _ _ _ _, _ => true

namespace Value

theorem length?_isSome_of_origin {value : Value} {origin : Origin}
    (origin_eq : value.origin? = some origin) (sized : origin ∈ [Origin.str, .list, .dict]) :
    value.length?.isSome = true := by
  cases value <;> cases origin_eq <;> simp_all [length?]

theorem number?_isSome_of_origin {value : Value} {origin : Origin}
    (origin_eq : value.origin? = some origin) (numeric : origin ∈ [Origin.int, .float]) :
    value.number?.isSome = true := by
  cases value <;> cases origin_eq <;> simp_all [number?]

theorem str?_isSome_of_origin {value : Value} {origin : Origin}
    (origin_eq : value.origin? = some origin) (textual : origin ∈ [Origin.str]) :
    value.str?.isSome = true := by
  cases value <;> cases origin_eq <;> simp_all [str?]

theorem files?_isSome_of_origin {value : Value} {origin : Origin}
    (origin_eq : value.origin? = some origin) (uploaded : origin ∈ [Origin.file]) :
    value.files?.isSome = true := by
  cases value <;> cases origin_eq <;> simp_all [files?]

end Value

namespace Rule

/-- Without the property that it reads a rule refuses the value, whatever its settings. -/
theorem accepts_eq_false_of_unread {rule : Rule} {value : Value}
    (unread : rule.canRead value = false) : rule.accepts value = false := by
  cases rule with
  | oneOf _ _ | custom _ _ _ _ => cases unread
  | _ =>
      simp only [canRead, Option.isSome_eq_false_iff, Option.isNone_iff_eq_none] at unread
      rw [accepts, unread]
      rfl

/-- A rule can read a value of a kind that it applies to. -/
theorem canRead_of_meetsKind {rule : Rule} {value : Value} (meets : rule.MeetsKind value) :
    rule.canRead value = true := by
  rcases meets with types_eq | ⟨origins, origin, types_eq, origin_eq, origin_mem⟩
  · cases rule <;> first | rfl | cases types_eq
  · cases rule with
    | minLength _ | maxLength _ =>
        obtain rfl := RuleTypes.only.inj types_eq
        exact Value.length?_isSome_of_origin origin_eq origin_mem
    | min _ | max _ =>
        obtain rfl := RuleTypes.only.inj types_eq
        exact Value.number?_isSome_of_origin origin_eq origin_mem
    | number | strip | isoDatetime | datetime _ | email | phoneNumber | regex _ =>
        obtain rfl := RuleTypes.only.inj types_eq
        exact Value.str?_isSome_of_origin origin_eq origin_mem
    | fileExtension _ _ | maxFileCount _ | minFileCount _ =>
        obtain rfl := RuleTypes.only.inj types_eq
        exact Value.files?_isSome_of_origin origin_eq origin_mem
    | oneOf _ _ | custom _ _ _ _ => rfl

/-- A rule of the library that can be attached to the shape of anything applies to all kinds. -/
theorem types_eq_any_of_builtIn {rule : Rule} (builtIn : rule.isBuiltIn = true)
    (accepted : rule.types.accepts .any = true) : rule.types = .any := by
  cases rule <;> simp_all [isBuiltIn, types, RuleTypes.accepts]

theorem meetsKind_of_accepts {rule : Rule} {value : Value} {origin : Origin}
    (builtIn : rule.isBuiltIn = true) (accepted : rule.types.accepts origin = true)
    (covers : origin = .any ∨ value.origin? = some origin) : rule.MeetsKind value := by
  rcases covers with rfl | origin_eq
  · exact .inl (types_eq_any_of_builtIn builtIn accepted)
  · cases types_eq : rule.types with
    | any => exact .inl types_eq
    | only origins =>
        rw [types_eq] at accepted
        have origin_mem : origin ∈ origins := by simpa [RuleTypes.accepts] using accepted
        exact .inr ⟨origins, origin, types_eq, origin_eq, origin_mem⟩

end Rule

namespace Param

variable (p : Param) (name : String) (provider : Provider)

/-- A value before the rules is of the kind of an origin of the shape. -/
theorem origin_of_hasShape {value : Value} (has_shape : p.HasShape value) :
    ∃ origin ∈ p.shape.origins, origin = .any ∨ value.origin? = some origin := by
  unfold HasShape at has_shape
  split at has_shape
  · rename_i upload
    obtain ⟨files, rfl⟩ := has_shape
    rw [p.file_of_upload upload]
    exact ⟨.file, by decide, .inr rfl⟩
  · exact Shape.origin_of_admits has_shape

theorem meetsKind_of_hasShape {rule : Rule} {value : Value} (rule_mem : rule ∈ p.rules)
    (builtIn : rule.isBuiltIn = true) (has_shape : p.HasShape value) : rule.MeetsKind value := by
  obtain ⟨origin, origin_mem, covers⟩ := p.origin_of_hasShape has_shape
  exact Rule.meetsKind_of_accepts builtIn (p.rule_accepts_origin rule_mem origin_mem) covers

/-! ## Tests on record -/

theorem mem_tests_firstRefusal? {value : Value} {rules : List Rule} {test : RuleTest}
    (recorded : test ∈ (firstRefusal? value rules).tests) :
    test.rule ∈ rules ∧ test.value = value := by
  induction rules with
  | nil => cases recorded
  | cons rule rules induction =>
      simp only [firstRefusal?, Logged.tests_bind, Rule.test, List.mem_append,
        List.mem_singleton] at recorded
      rcases recorded with rfl | later
      · exact ⟨List.mem_cons_self, rfl⟩
      · split at later
        · obtain ⟨rule_mem, value_eq⟩ := induction later
          exact ⟨List.mem_cons_of_mem rule rule_mem, value_eq⟩
        · cases later

theorem mem_tests_checkRules {value : Value} {test : RuleTest}
    (recorded : test ∈ (p.checkRules name value).tests) :
    test.rule ∈ p.rules ∧ test.value = value := by
  rw [checkRules, Logged.tests_bind, List.mem_append] at recorded
  rcases recorded with scanned | later
  · exact mem_tests_firstRefusal? scanned
  · split at later <;> cases later

/-- Coercion tests no rule. -/
theorem coerce_tests (raw : Value) (shape : Shape) (source : Source) (field : String) :
    (coerce raw shape source field).tests = [] := by
  unfold coerce
  split
  · unfold coerceText
    split
    · rfl
    · split <;> rfl
  · rfl

theorem mem_tests_resolveGiven {raw : Value} (given : p.IsGiven name provider raw)
    {test : RuleTest} (recorded : test ∈ (p.resolveGiven name raw).tests) :
    test.rule ∈ p.rules ∧ p.Coerces raw test.value ∧ p.HasShape test.value := by
  simp only [resolveGiven, Logged.tests_bind, coerce_tests, List.nil_append] at recorded
  rcases p.coerces_or_unread raw with ⟨value, coerces⟩ | ⟨text, target, rfl, converts, unread⟩
  · simp only [p.coerce_eq_ok coerces, checkShape] at recorded
    by_cases admitted : p.source = .file ∨ p.shape.admits value = true
    · rw [if_pos admitted] at recorded
      obtain ⟨rule_mem, rfl⟩ := p.mem_tests_checkRules name recorded
      exact ⟨rule_mem, coerces, p.hasShape_of_given name provider given coerces admitted⟩
    · rw [if_neg admitted] at recorded
      cases recorded
  · simp only [p.coerce_of_converts converts, unread] at recorded
    cases recorded

/-- Only the value that comes before the rules is tested by them. -/
theorem mem_tests_resolve {test : RuleTest} (recorded : test ∈ (p.resolve name provider).tests) :
    test.rule ∈ p.rules ∧ p.Candidate name provider test.value ∧ p.HasShape test.value := by
  rcases p.absent_or_given name provider with absent | ⟨raw, given⟩
  · rw [p.resolve_of_absent name provider absent, resolveMissing] at recorded
    split at recorded
    · rename_i value default_eq
      obtain ⟨rule_mem, rfl⟩ := p.mem_tests_checkRules name recorded
      exact ⟨rule_mem, .default absent default_eq, p.hasShape_default default_eq⟩
    · split at recorded <;> cases recorded
  · rw [p.resolve_of_given name provider given] at recorded
    obtain ⟨rule_mem, coerces, has_shape⟩ := p.mem_tests_resolveGiven name provider given recorded
    exact ⟨rule_mem, .given given coerces, has_shape⟩

end Param

theorem mem_tests_resolveAll {provider : Provider} {entries : List (String × Param)}
    {test : RuleTest} (recorded : test ∈ (resolveAll provider entries).tests) :
    ∃ entry ∈ entries, test ∈ (entry.2.resolve entry.1 provider).tests := by
  induction entries with
  | nil => cases recorded
  | cons entry rest induction =>
      rw [resolveAll, Logged.tests_bind, List.mem_append] at recorded
      rcases recorded with first | later
      · exact ⟨entry, List.mem_cons_self, first⟩
      · split at later
        · cases later
        · rw [Logged.tests_bind, List.mem_append] at later
          rcases later with later | nothing
          · obtain ⟨other, other_mem, recorded⟩ := induction later
            exact ⟨other, List.mem_cons_of_mem entry other_mem, recorded⟩
          · split at nothing <;> cases nothing

/-- A test made while a set is checked is one of a declared parameter. -/
theorem ParamSet.mem_tests_check {set : ParamSet} {provider : Provider} {test : RuleTest}
    (recorded : test ∈ (set.check provider).tests) :
    ∃ entry ∈ set.entries, test ∈ (entry.2.resolve entry.1 provider).tests := by
  rw [check, Logged.tests_bind, Logged.tests_pure, List.append_nil] at recorded
  exact mem_tests_resolveAll recorded

/-- Whatever a request holds and however its check ends, each rule of the library that is put to a
value applies to the kind of that value, and finds there the property that it reads. -/
theorem ParamSet.tests_meet_kinds (set : ParamSet)
    (builtIn : ∀ entry ∈ set.entries, ∀ rule ∈ entry.2.rules, rule.isBuiltIn = true)
    (provider : Provider) :
    ∀ test ∈ (set.check provider).tests,
      (test.rule.types = .any ∨ ∃ origins origin, test.rule.types = .only origins ∧
        test.value.origin? = some origin ∧ origin ∈ origins) ∧
      test.rule.canRead test.value = true := by
  intro test recorded
  obtain ⟨entry, entry_mem, recorded⟩ := mem_tests_check recorded
  obtain ⟨rule_mem, -, has_shape⟩ := entry.2.mem_tests_resolve entry.1 provider recorded
  have rule_builtIn := builtIn entry entry_mem test.rule rule_mem
  have meets := entry.2.meetsKind_of_hasShape rule_mem rule_builtIn has_shape
  exact ⟨meets, Rule.canRead_of_meetsKind meets⟩

/-- The text `0` of a page number comes before its bound as an integer, which the bound refuses. -/
theorem tests_meet_kinds_search :
    (∀ entry ∈ search.entries, ∀ rule ∈ entry.2.rules, rule.isBuiltIn = true) ∧
      (search.check (RequestInputs.empty.setQuery "page" "0").provider).tests =
        [⟨.min (.int 1), .int 0⟩] ∧
      ((Rule.min (.int 1)).types = .any ∨ ∃ origins origin,
        (Rule.min (.int 1)).types = .only origins ∧
          (Value.int 0).origin? = some origin ∧ origin ∈ origins) ∧
      (Rule.min (.int 1)).canRead (.int 0) = true := by
  have builtIn : ∀ entry ∈ search.entries, ∀ rule ∈ entry.2.rules, rule.isBuiltIn = true := by
    simp [search, pageNumber, searchTag, Rule.isBuiltIn]
  have tests_eq : (search.check (RequestInputs.empty.setQuery "page" "0").provider).tests =
      [⟨.min (.int 1), .int 0⟩] := rfl
  refine ⟨builtIn, tests_eq, ?_⟩
  exact ParamSet.tests_meet_kinds search builtIn _ ⟨.min (.int 1), .int 0⟩
    (tests_eq ▸ List.mem_cons_self)

end RequestParams
