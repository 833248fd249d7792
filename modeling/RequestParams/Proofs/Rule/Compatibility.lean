import RequestParams.Proofs.Param.Legality
import RequestParams.Proofs.Validation.RuleSafety

/-!
# Compatibility of rules and shapes

A rule is tested against the origins of a shape before there is a value. The test is exact: a rule
of the library passes it if and only if the rule applies to the kind of every value of the shape. In
one direction a value is of the kind of an origin. In the other one each origin has a value of the
shape: an empty container, whatever its items may be, and null for the shape of anything.
-/

namespace RequestParams

/-- The value is of one of these kinds. Null is of none. -/
def Value.IsOfKind (kinds : List Origin) (value : Value) : Prop :=
  ∃ kind ∈ kinds, value.origin? = some kind

/-- A value of an origin's kind, and null for anything. -/
def Origin.sample : Origin → Value
  | int => .int 0
  | float => .float ⟨0⟩
  | str => .str ""
  | bool => .bool false
  | list => .list []
  | dict => .dict []
  | file => .files []
  | any => .null

theorem Origin.eq_of_origin?_sample {origin kind : Origin}
    (kind_eq : origin.sample.origin? = some kind) : kind = origin := by
  cases origin with
  | any => cases kind_eq
  | _ => exact (Option.some.inj kind_eq).symm

/-- The sample of an origin is a value of every shape with that origin. -/
theorem Shape.admits_sample {shape : Shape} {origin : Origin}
    (origin_mem : origin ∈ shape.origins) : shape.admits origin.sample = true := by
  rw [mem_origins_iff] at origin_mem
  induction shape with
  | scalar kind =>
      obtain rfl := List.mem_singleton.mp origin_mem
      cases kind <;> rfl
  | list item _ =>
      obtain rfl := List.mem_singleton.mp origin_mem
      rfl
  | dict item _ =>
      obtain rfl := List.mem_singleton.mp origin_mem
      rfl
  | file =>
      obtain rfl := List.mem_singleton.mp origin_mem
      rfl
  | any => rfl
  | union members induction =>
      rw [alternatives, mem_memberAlternatives_iff] at origin_mem
      obtain ⟨member, member_mem, origin_mem⟩ := origin_mem
      rw [admits, anyAdmits_iff]
      exact ⟨member, member_mem, induction member member_mem origin_mem⟩

namespace Rule

variable {rule : Rule} {kinds : List Origin}

theorem MeetsKind.isOfKind {value : Value} (meets : rule.MeetsKind value)
    (types_eq : rule.types = .only kinds) : value.IsOfKind kinds := by
  rcases meets with applies | ⟨origins, kind, only_eq, kind_eq, kind_mem⟩
  · rw [types_eq] at applies
    cases applies
  · obtain rfl := RuleTypes.only.inj (types_eq.symm.trans only_eq)
    exact ⟨kind, kind_mem, kind_eq⟩

/-- A rule that is refused at an origin does not apply to the origin's sample. -/
theorem not_isOfKind_sample {origin : Origin} (types_eq : rule.types = .only kinds)
    (refused : rule.types.accepts origin = false) : ¬origin.sample.IsOfKind kinds := by
  rintro ⟨kind, kind_mem, kind_eq⟩
  obtain rfl := Origin.eq_of_origin?_sample kind_eq
  rw [types_eq] at refused
  exact of_decide_eq_false refused kind_mem

/-- A rule of the library applies to the origins of a shape if and only if it applies to the kinds
of its values. -/
theorem accepts_origins_iff (builtIn : rule.isBuiltIn = true) (types_eq : rule.types = .only kinds)
    (shape : Shape) :
    (∀ origin ∈ shape.origins, rule.types.accepts origin = true) ↔
      ∀ value, shape.admits value = true → value.IsOfKind kinds := by
  constructor
  · intro accepted value admitted
    obtain ⟨origin, origin_mem, covers⟩ := Shape.origin_of_admits admitted
    exact (meetsKind_of_accepts builtIn (accepted origin origin_mem) covers).isOfKind types_eq
  · intro handled origin origin_mem
    have handles_sample := handled origin.sample (Shape.admits_sample origin_mem)
    cases accepted : rule.types.accepts origin with
    | true => rfl
    | false => exact absurd handles_sample (not_isOfKind_sample types_eq accepted)

end Rule

namespace Declaration

variable {d : Declaration}

/-- A declaration that is refused for its rules has a first offence, which the error names. -/
theorem exists_firstOffence_of_build {name kind allowed : String}
    (refused : d.build.result = .error (.invalidRuleShape name kind allowed)) :
    ∃ origin rule, d.FirstOffence origin rule ∧
      rule.name = name ∧ origin.name = kind ∧ rule.types.text = allowed := by
  have faults := (d.build_eq_error_iff _).mp refused
  cases faults with
  | shape broken fault => cases fault
  | rule shape default broken offence => exact ⟨_, _, offence, rfl, rfl, rfl⟩

end Declaration

/-- A rule of the library that does not apply to all kinds passes the test against a shape if and
only if it applies to the kind of every value of the shape. Hence a declaration is refused for its
rules only if one of them, which the error names, does not apply to some value of the shape, and
never built with such a rule. -/
theorem Rule.compatibility_exact {rule : Rule} {kinds : List Origin}
    (builtIn : rule.isBuiltIn = true) (types_eq : rule.types = .only kinds) :
    (∀ shape : Shape,
      (∀ origin ∈ shape.origins, rule.types.accepts origin = true) ↔
        ∀ value, shape.admits value = true → value.IsOfKind kinds) ∧
    ∀ d : Declaration,
      (rule ∈ d.rules → ∀ p, d.build.result = .ok p →
        ∀ value, d.shape.admits value = true → value.IsOfKind kinds) ∧
      ∀ name kind allowed, d.build.result = .error (.invalidRuleShape name kind allowed) →
        ∃ other ∈ d.rules, ∃ otherKinds,
          other.name = name ∧ other.types = .only otherKinds ∧
            (RuleTypes.only otherKinds).text = allowed ∧
            ∃ value, d.shape.admits value = true ∧ ¬value.IsOfKind otherKinds := by
  refine ⟨accepts_origins_iff builtIn types_eq, fun d => ⟨?_, ?_⟩⟩
  · intro rule_mem p built
    obtain ⟨legal, rfl⟩ := (d.build_eq_ok_iff p).mp built
    refine (accepts_origins_iff builtIn types_eq p.shape).mp fun origin origin_mem => ?_
    exact legal.rules origin origin_mem rule rule_mem
  · intro name kind allowed refused
    obtain ⟨origin, other, offence, rfl, -, rfl⟩ := Declaration.exists_firstOffence_of_build refused
    cases types_other : other.types with
    | any =>
        -- A rule that applies to all kinds is never refused.
        have not_accepted := offence.refused
        rw [types_other] at not_accepted
        cases not_accepted
    | only otherKinds =>
        exact ⟨other, offence.rule_mem, otherKinds, rfl, types_other, rfl, origin.sample,
          Shape.admits_sample offence.origin_mem,
          not_isOfKind_sample types_other offence.refused⟩

/-- A text or anything, with a least length. -/
def sizedText : Declaration :=
  { Declaration.ofSource .json (.union [.scalar .str, .any]) with rules := [.minLength 2] }

/-- A length is one of texts and of lists, also of lists without items, and not one of anything. -/
theorem Rule.compatibility_exact_minLength :
    (minLength 2).isBuiltIn = true ∧ (minLength 2).types = .only [.str, .list, .dict] ∧
      (∀ value, (Shape.union [.scalar .str, .list (.union [])]).admits value = true →
        value.IsOfKind [.str, .list, .dict]) ∧
      sizedText.build.result =
        .error (.invalidRuleShape "MinLength" "any" "\x7bstr, list, dict\x7d") ∧
      ∃ other ∈ sizedText.rules, ∃ otherKinds,
        other.name = "MinLength" ∧ other.types = .only otherKinds ∧
          (RuleTypes.only otherKinds).text = "\x7bstr, list, dict\x7d" ∧
          ∃ value, sizedText.shape.admits value = true ∧ ¬value.IsOfKind otherKinds := by
  have builtIn : (minLength 2).isBuiltIn = true := rfl
  have types_eq : (minLength 2).types = .only [.str, .list, .dict] := rfl
  have exact := compatibility_exact builtIn types_eq
  have refused : sizedText.build.result =
      .error (.invalidRuleShape "MinLength" "any" "\x7bstr, list, dict\x7d") := rfl
  refine ⟨builtIn, types_eq, (exact.1 _).mp (by decide), refused, ?_⟩
  exact (exact.2 sizedText).2 _ _ _ refused

end RequestParams
