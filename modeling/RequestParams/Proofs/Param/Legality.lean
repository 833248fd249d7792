import RequestParams.Proofs.Shape.FirstChoice
import RequestParams.Proofs.Shape.Parts

/-!
# Legal declarations

A declaration is legal if its shape suits its source, its default has the shape, each rule applies
to each origin, and its wire name is one of a header. These conditions stand in an order. The main
theorem says that the legal declarations are those that are built, as they are, and that any other
is refused for the first condition it breaks, with the error that `Faults` assigns to it.
-/

namespace RequestParams

/-- The two searches, for defects and for files, come to nothing where no part is faulty. -/
theorem Shape.faultless_iff (shape : Shape) :
    shape.defect? = none ∧ shape.containsFile = false ↔
      ∀ part ∈ shape.parts, ¬part.IsFaulty := by
  by_cases whole : shape = .file
  · simp [whole, containsFile, parts, IsFaulty]
  · rw [defect?_eq_nestedDefect? whole, nestedDefect?_eq_none_iff, and_iff_left_iff_imp]
    intro faultless
    rw [← Bool.not_eq_true, containsFile_iff]
    exact fun file_mem => faultless .file file_mem (.inr rfl)

namespace Declaration

/-! ## The conditions -/

/-- The shape suits the source. Uploads have no other shape than files. Any other shape has no empty
union and no file among its parts, and no container either unless the source is a JSON body. -/
def ShapeLegal (d : Declaration) : Prop :=
  d.source = .file ∨
    .union [] ∉ d.shape.parts ∧ .file ∉ d.shape.parts ∧
      (d.source ≠ .json → ∀ part ∈ d.shape.parts, part.IsSimple)

/-- A default is not one of an upload, and it has the shape. -/
def DefaultLegal (d : Declaration) : Prop :=
  ∀ value, d.default = some value → d.source ≠ .file ∧ d.shape.admits value = true

/-- Each rule applies to each origin of the shape. -/
def RulesLegal (d : Declaration) : Prop :=
  ∀ origin ∈ d.shape.origins, ∀ rule ∈ d.rules, rule.types.accepts origin = true

/-- A wire name is one of a header, and it is not blank. -/
def WireNameLegal (d : Declaration) : Prop :=
  ∀ name, d.wireName = some name →
    d.source = .header ∧ ∃ c ∈ name.toList, Text.isBlank c = false

/-- The declaration meets all conditions. -/
structure Legal (d : Declaration) : Prop where
  shape : d.ShapeLegal
  default : d.DefaultLegal
  rules : d.RulesLegal
  wireName : d.WireNameLegal

/-! ## The errors -/

/-- The errors of shapes that do not suit their source. -/
inductive ShapeFault (d : Declaration) : ConfigError → Prop
  /-- The first faulty part is a union without members. -/
  | emptyUnion (first : d.shape.FirstFault (.union [])) : ShapeFault d .emptyUnion
  /-- The first faulty part is the file type, below the top. -/
  | nestedFile (nested : d.shape ≠ .file) (first : d.shape.FirstFault .file) :
      ShapeFault d
        (.invalidShape none "File" "file type cannot be nested inside another type")
  /-- The shape is the file type itself. -/
  | file (whole : d.shape = .file) :
      ShapeFault d
        (.invalidShape (some d.source) "File" "file type is only allowed for File parameters")
  /-- No part is faulty, so that a container remains. -/
  | container (faultless : ∀ part ∈ d.shape.parts, ¬part.IsFaulty) :
      ShapeFault d
        (.invalidShape (some d.source) d.shape.text
          "must be one of (int, float, str, bool, All) or a union of them")

/-- The rule is the first one that does not apply to the origin, which is the first such origin. -/
structure FirstOffence (d : Declaration) (origin : Origin) (rule : Rule) : Prop where
  /-- All rules apply to the origins before. -/
  origin_first : ∃ before after, d.shape.origins = before ++ origin :: after ∧
    ∀ other ∈ before, ∀ rule ∈ d.rules, rule.types.accepts other = true
  /-- The rules before apply to the origin. -/
  rule_first : ∃ before after, d.rules = before ++ rule :: after ∧
    ∀ other ∈ before, other.types.accepts origin = true
  /-- The rule does not. -/
  refused : rule.types.accepts origin = false

/-- The first condition that is broken, and the error for it. -/
inductive Faults (d : Declaration) : ConfigError → Prop
  /-- The shape does not suit the source. -/
  | shape {e : ConfigError} (broken : ¬d.ShapeLegal) (fault : d.ShapeFault e) : Faults d e
  /-- The default is out of place. -/
  | default {value : Value} (shape : d.ShapeLegal) (broken : ¬d.DefaultLegal)
      (given : d.default = some value) :
      Faults d (.invalidDefault value.text d.shape.text)
  /-- A rule does not apply. -/
  | rule {origin : Origin} {rule : Rule} (shape : d.ShapeLegal) (default : d.DefaultLegal)
      (broken : ¬d.RulesLegal) (offence : d.FirstOffence origin rule) :
      Faults d (.invalidRuleShape rule.name origin.name rule.types.text)
  /-- The wire name is one of another source than a header. -/
  | wireName (shape : d.ShapeLegal) (default : d.DefaultLegal) (rules : d.RulesLegal)
      (broken : ¬d.WireNameLegal) (elsewhere : d.source ≠ .header) :
      Faults d (.unsupportedWireName d.source)
  /-- The wire name of a header is blank. -/
  | headerName (shape : d.ShapeLegal) (default : d.DefaultLegal) (rules : d.RulesLegal)
      (broken : ¬d.WireNameLegal) (header : d.source = .header) : Faults d .invalidHeaderName

variable {d : Declaration}

/-! ## The shape -/

theorem shapeLegal_iff (d : Declaration) : d.ShapeLegal ↔ d.shapeDefect? = none := by
  have simple : (d.source ≠ .json → ∀ part ∈ d.shape.parts, part.IsSimple) ↔
      d.source = .json ∨ d.shape.isFlat = true := by
    rw [Shape.isFlat_iff]
    exact Decidable.or_iff_not_imp_left.symm
  rw [ShapeLegal, shapeDefect?_eq_none_iff, simple, ← and_assoc, ← and_assoc, Shape.faultless_iff,
    Shape.forall_not_isFaulty_iff]

theorem shapeDefect?_of_whole (other : d.source ≠ .file) (whole : d.shape = .file) :
    d.shapeDefect? = some (.invalidShape (some d.source) "File"
      "file type is only allowed for File parameters") := by
  simp [shapeDefect?, other, whole, Shape.defect?, Shape.containsFile, Shape.text]

theorem shapeDefect?_of_nestedDefect? (other : d.source ≠ .file) (nested : d.shape ≠ .file)
    {e : ConfigError} (faulty : d.shape.nestedDefect? = some e) : d.shapeDefect? = some e := by
  rw [shapeDefect?, if_neg other, Shape.defect?_eq_nestedDefect? nested, faulty]

/-- Where no part is faulty, only containers are looked for. -/
theorem shapeDefect?_of_faultless (other : d.source ≠ .file)
    (faultless : ∀ part ∈ d.shape.parts, ¬part.IsFaulty) :
    d.shapeDefect? =
      if d.source ≠ .json ∧ d.shape.isFlat = false then
        some (.invalidShape (some d.source) d.shape.text
          "must be one of (int, float, str, bool, All) or a union of them")
      else none := by
  obtain ⟨no_defect, no_file⟩ := (Shape.faultless_iff d.shape).mpr faultless
  simp [shapeDefect?, other, no_defect, no_file]

theorem source_ne_file_of_broken (broken : ¬d.ShapeLegal) : d.source ≠ .file :=
  fun upload => broken (.inl upload)

theorem shapeFault_of_shapeDefect? (other : d.source ≠ .file) {e : ConfigError}
    (defect : d.shapeDefect? = some e) : d.ShapeFault e := by
  -- The file type at the top is the one fault that only the search for files finds.
  by_cases whole : d.shape = .file
  · rw [shapeDefect?_of_whole other whole] at defect
    obtain rfl := Option.some.inj defect
    exact .file whole
  · cases nested : d.shape.nestedDefect? with
    | some inner =>
        rw [shapeDefect?_of_nestedDefect? other whole nested] at defect
        obtain rfl := Option.some.inj defect
        rcases (Shape.nestedDefect?_eq_some_iff d.shape inner).mp nested with
          ⟨first, rfl⟩ | ⟨first, rfl⟩
        · exact .emptyUnion first
        · exact .nestedFile whole first
    | none =>
        have faultless := (Shape.nestedDefect?_eq_none_iff d.shape).mp nested
        rw [shapeDefect?_of_faultless other faultless] at defect
        split at defect
        · obtain rfl := Option.some.inj defect
          exact .container faultless
        · cases defect

theorem shapeDefect?_of_shapeFault (broken : ¬d.ShapeLegal) {e : ConfigError}
    (fault : d.ShapeFault e) : d.shapeDefect? = some e := by
  have other := source_ne_file_of_broken broken
  cases fault with
  | emptyUnion first =>
      have nested : d.shape ≠ .file := by
        intro whole
        have empty_mem := first.mem
        simp [whole, Shape.parts] at empty_mem
      have faulty := (Shape.nestedDefect?_eq_some_iff d.shape _).mpr (.inl ⟨first, rfl⟩)
      exact shapeDefect?_of_nestedDefect? other nested faulty
  | nestedFile nested first =>
      have faulty := (Shape.nestedDefect?_eq_some_iff d.shape _).mpr (.inr ⟨first, rfl⟩)
      exact shapeDefect?_of_nestedDefect? other nested faulty
  | file whole => exact shapeDefect?_of_whole other whole
  | container faultless =>
      rw [shapeLegal_iff, shapeDefect?_of_faultless other faultless] at broken
      rw [shapeDefect?_of_faultless other faultless]
      split at broken
      · rename_i containers
        rw [if_pos containers]
      · exact absurd rfl broken

/-- The defect of the shape is the error for a shape that does not suit its source. -/
theorem shapeDefect?_eq_some_iff (d : Declaration) (e : ConfigError) :
    d.shapeDefect? = some e ↔ ¬d.ShapeLegal ∧ d.ShapeFault e := by
  constructor
  · intro defect
    have broken : ¬d.ShapeLegal := by
      rw [shapeLegal_iff, defect]
      exact Option.some_ne_none e
    exact ⟨broken, shapeFault_of_shapeDefect? (source_ne_file_of_broken broken) defect⟩
  · rintro ⟨broken, fault⟩
    exact shapeDefect?_of_shapeFault broken fault

/-! ## The default, the rules and the wire name -/

theorem defaultLegal_iff (d : Declaration) : d.DefaultLegal ↔ d.defaultDefect? = none :=
  d.defaultDefect?_eq_none_iff.symm

theorem defaultDefect?_eq_some_iff (d : Declaration) (e : ConfigError) :
    d.defaultDefect? = some e ↔
      ¬d.DefaultLegal ∧
        ∃ value, d.default = some value ∧ e = .invalidDefault value.text d.shape.text := by
  rw [defaultLegal_iff]
  unfold defaultDefect?
  cases d.default with
  | none => simp
  | some value =>
      by_cases misplaced : d.source = .file ∨ d.shape.admits value = false <;>
        simp [misplaced, @eq_comm _ e]

theorem rulesLegal_iff (d : Declaration) : d.RulesLegal ↔ d.rulesDefect? = none :=
  d.rulesDefect?_eq_none_iff.symm

theorem ruleDefect?_eq_some_iff (origin : Origin) (rule : Rule) (e : ConfigError) :
    ruleDefect? origin rule = some e ↔
      rule.types.accepts origin = false ∧
        e = .invalidRuleShape rule.name origin.name rule.types.text := by
  cases accepted : rule.types.accepts origin <;> simp [ruleDefect?, accepted, @eq_comm _ e]

/-- The defect of the rules is the error for the first offence. -/
theorem rulesDefect?_eq_some_iff (d : Declaration) (e : ConfigError) :
    d.rulesDefect? = some e ↔
      ∃ origin rule, d.FirstOffence origin rule ∧
        e = .invalidRuleShape rule.name origin.name rule.types.text := by
  simp only [rulesDefect?, List.findSome?_eq_some_iff, List.findSome?_eq_none_iff,
    ruleDefect?_eq_none_iff, ruleDefect?_eq_some_iff]
  constructor
  · rintro ⟨before, origin, after, split, ⟨passed, rule, left, rule_split, ⟨refused, rfl⟩,
      accepting⟩, sound⟩
    exact ⟨origin, rule, ⟨⟨before, after, split, sound⟩, ⟨passed, left, rule_split, accepting⟩,
      refused⟩, rfl⟩
  · rintro ⟨origin, rule, ⟨⟨before, after, split, sound⟩, ⟨passed, left, rule_split, accepting⟩,
      refused⟩, rfl⟩
    exact ⟨before, origin, after, split, ⟨passed, rule, left, rule_split, ⟨refused, rfl⟩,
      accepting⟩, sound⟩

theorem FirstOffence.origin_mem {origin : Origin} {rule : Rule}
    (offence : d.FirstOffence origin rule) : origin ∈ d.shape.origins := by
  obtain ⟨before, after, split, -⟩ := offence.origin_first
  rw [split]
  exact List.mem_append_cons_self

theorem FirstOffence.rule_mem {origin : Origin} {rule : Rule}
    (offence : d.FirstOffence origin rule) : rule ∈ d.rules := by
  obtain ⟨before, after, split, -⟩ := offence.rule_first
  rw [split]
  exact List.mem_append_cons_self

theorem FirstOffence.not_rulesLegal {origin : Origin} {rule : Rule}
    (offence : d.FirstOffence origin rule) : ¬d.RulesLegal := by
  intro legal
  rw [rulesLegal_iff, (d.rulesDefect?_eq_some_iff _).mpr ⟨origin, rule, offence, rfl⟩] at legal
  cases legal

theorem wireNameLegal_iff (d : Declaration) : d.WireNameLegal ↔ d.wireNameDefect? = none := by
  unfold WireNameLegal wireNameDefect?
  cases d.wireName with
  | none => simp
  | some name => by_cases header : d.source = .header <;> simp [header, Text.isBlankText]

theorem wireNameDefect?_eq_some_iff (d : Declaration) (e : ConfigError) :
    d.wireNameDefect? = some e ↔
      ¬d.WireNameLegal ∧
        (d.source = .header ∧ e = .invalidHeaderName ∨
          d.source ≠ .header ∧ e = .unsupportedWireName d.source) := by
  rw [wireNameLegal_iff]
  unfold wireNameDefect?
  cases d.wireName with
  | none => simp
  | some name =>
      by_cases header : d.source = .header
      · cases blank : Text.isBlankText name <;> simp [header, blank, @eq_comm _ e]
      · simp [header, @eq_comm _ e]

/-! ## All conditions in order -/

theorem legal_iff (d : Declaration) : d.Legal ↔ d.defect? = none := by
  rw [defect?_eq_none_iff, ← shapeLegal_iff, ← defaultLegal_iff, ← rulesLegal_iff,
    ← wireNameLegal_iff]
  exact ⟨fun legal => ⟨legal.shape, legal.default, legal.rules, legal.wireName⟩,
    fun ⟨shape, default, rules, wireName⟩ => ⟨shape, default, rules, wireName⟩⟩

/-- The defect of a declaration is that of the first setting that has one. -/
theorem defect?_eq_some_iff (d : Declaration) (e : ConfigError) :
    d.defect? = some e ↔
      d.shapeDefect? = some e ∨
        d.shapeDefect? = none ∧ d.defaultDefect? = some e ∨
        d.shapeDefect? = none ∧ d.defaultDefect? = none ∧ d.rulesDefect? = some e ∨
        d.shapeDefect? = none ∧ d.defaultDefect? = none ∧ d.rulesDefect? = none ∧
          d.wireNameDefect? = some e := by
  unfold defect?
  cases d.shapeDefect? <;> cases d.defaultDefect? <;> cases d.rulesDefect? <;>
    cases d.wireNameDefect? <;> simp

/-- The defect of a declaration is the error for the first condition that it breaks. -/
theorem faults_iff (d : Declaration) (e : ConfigError) : d.Faults e ↔ d.defect? = some e := by
  rw [defect?_eq_some_iff, ← shapeLegal_iff, ← defaultLegal_iff, ← rulesLegal_iff,
    shapeDefect?_eq_some_iff, defaultDefect?_eq_some_iff, rulesDefect?_eq_some_iff,
    wireNameDefect?_eq_some_iff]
  constructor
  · intro faults
    cases faults with
    | shape broken fault => exact .inl ⟨broken, fault⟩
    | default shape broken given => exact .inr (.inl ⟨shape, broken, _, given, rfl⟩)
    | rule shape default broken offence =>
        exact .inr (.inr (.inl ⟨shape, default, _, _, offence, rfl⟩))
    | wireName shape default rules broken elsewhere =>
        exact .inr (.inr (.inr ⟨shape, default, rules, broken, .inr ⟨elsewhere, rfl⟩⟩))
    | headerName shape default rules broken header =>
        exact .inr (.inr (.inr ⟨shape, default, rules, broken, .inl ⟨header, rfl⟩⟩))
  · rintro (⟨broken, fault⟩ | ⟨shape, broken, value, given, rfl⟩ |
      ⟨shape, default, origin, rule, offence, rfl⟩ |
      ⟨shape, default, rules, broken, ⟨header, rfl⟩ | ⟨elsewhere, rfl⟩⟩)
    · exact .shape broken fault
    · exact .default shape broken given
    · exact .rule shape default offence.not_rulesLegal offence
    · exact .headerName shape default rules broken header
    · exact .wireName shape default rules broken elsewhere

theorem build_eq_ok_iff (d : Declaration) (p : Param) :
    d.build.result = .ok p ↔ d.Legal ∧ p.toDeclaration = d := by
  rw [legal_iff]
  unfold build
  split
  · rename_i defect faulty
    simp [faulty]
  · rename_i sound
    simp only [sound, true_and, Logged.result_bind, Logged.result_pure, Except.ok.injEq]
    constructor
    · rintro rfl
      rfl
    · rintro rfl
      rfl

theorem build_eq_error_iff (d : Declaration) (e : ConfigError) :
    d.build.result = .error e ↔ d.Faults e := by
  rw [faults_iff]
  unfold build
  split
  · rename_i defect faulty
    simp [faulty]
  · rename_i sound
    simp [sound]

/-- A declaration is built exactly if it is legal, and the parameter has all its settings as they
are. A declaration that is not built is refused with the error for the first condition it breaks. -/
theorem build_settles (d : Declaration) :
    ((∃ p, d.build.result = .ok p) ↔ d.Legal) ∧
      (∀ p, d.build.result = .ok p ↔ d.Legal ∧ p.toDeclaration = d) ∧
        ∀ e, d.build.result = .error e ↔ d.Faults e := by
  refine ⟨?_, d.build_eq_ok_iff, d.build_eq_error_iff⟩
  constructor
  · rintro ⟨p, built⟩
    exact ((d.build_eq_ok_iff p).mp built).1
  · intro legal
    have sound : d.defect? = none := d.legal_iff.mp legal
    exact ⟨⟨d, sound⟩, (d.build_eq_ok_iff _).mpr ⟨legal, rfl⟩⟩

/-- The file comes before the empty union and is reported; the blank wire name is not reached. -/
example :
    Declaration.build { Declaration.ofSource .header (.list (.union [.file, .union []])) with
      wireName := some " " } =
      return .error
        (.invalidShape none "File" "file type cannot be nested inside another type") := rfl

end Declaration

end RequestParams
