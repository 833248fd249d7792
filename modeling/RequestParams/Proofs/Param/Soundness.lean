import RequestParams.Param

/-!
# What a parameter without defects satisfies

A `Param` carries one fact, that no defect was found in its declaration. This file takes that fact
apart: a default has the declared shape, an upload has no default, and each rule applies to each
origin of the shape.
-/

namespace RequestParams

namespace Declaration

/-- A declaration is free of defects when each of its four settings is. -/
theorem defect?_eq_none_iff (d : Declaration) :
    d.defect? = none ↔
      d.shapeDefect? = none ∧ d.defaultDefect? = none ∧ d.rulesDefect? = none ∧
        d.wireNameDefect? = none := by
  simp [defect?]

/-- A shape has no defect for its source: uploads have their own, other shapes hold no file and no
empty union, and sources of texts have flat ones. -/
theorem shapeDefect?_eq_none_iff (d : Declaration) :
    d.shapeDefect? = none ↔
      d.source = .file ∨
        d.shape.defect? = none ∧ d.shape.containsFile = false ∧
          (d.source = .json ∨ d.shape.isFlat = true) := by
  unfold shapeDefect?
  by_cases upload : d.source = .file
  · simp [upload]
  · rw [if_neg upload]
    cases d.shape.defect? with
    | some defect => simp [upload]
    | none =>
        cases d.shape.containsFile with
        | true => simp [upload]
        | false => by_cases body : d.source = .json <;> simp [body, upload]

theorem defaultDefect?_eq_none_iff (d : Declaration) :
    d.defaultDefect? = none ↔
      ∀ value, d.default = some value → d.source ≠ .file ∧ d.shape.admits value = true := by
  unfold defaultDefect?
  cases d.default with
  | none => simp
  | some value => simp

theorem ruleDefect?_eq_none_iff (origin : Origin) (rule : Rule) :
    ruleDefect? origin rule = none ↔ rule.types.accepts origin = true := by
  simp [ruleDefect?]

theorem rulesDefect?_eq_none_iff (d : Declaration) :
    d.rulesDefect? = none ↔
      ∀ origin ∈ d.shape.origins, ∀ rule ∈ d.rules, rule.types.accepts origin = true := by
  simp only [rulesDefect?, List.findSome?_eq_none_iff, ruleDefect?_eq_none_iff]

end Declaration

namespace Param

/-- The default of a parameter has the declared shape. -/
theorem admits_default (p : Param) {value : Value} (default_eq : p.default = some value) :
    p.shape.admits value = true := by
  have defaultSound := (p.toDeclaration.defect?_eq_none_iff.mp p.sound).2.1
  exact (p.defaultDefect?_eq_none_iff.mp defaultSound value default_eq).2

/-- Uploads have no default. -/
theorem default_eq_none_of_file (p : Param) (upload : p.source = .file) : p.default = none := by
  have defaultSound := (p.toDeclaration.defect?_eq_none_iff.mp p.sound).2.1
  cases default_eq : p.default with
  | none => rfl
  | some value =>
      exact absurd upload (p.defaultDefect?_eq_none_iff.mp defaultSound value default_eq).1

/-- Each rule of a parameter applies to each origin of its shape. -/
theorem rule_accepts_origin (p : Param) {rule : Rule} {origin : Origin}
    (rule_mem : rule ∈ p.rules) (origin_mem : origin ∈ p.shape.origins) :
    rule.types.accepts origin = true := by
  have rulesSound := (p.toDeclaration.defect?_eq_none_iff.mp p.sound).2.2.1
  exact p.rulesDefect?_eq_none_iff.mp rulesSound origin origin_mem rule rule_mem

end Param

end RequestParams
