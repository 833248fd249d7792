import RequestParams.Proofs.Param.Soundness
import RequestParams.Proofs.Shape.Origins

/-!
# First choices

The first choice of a shape is reached by going down the first members of nested unions. A value
that has the first choice has the shape. In a flat shape without empty unions the first choice is a
scalar or the shape of anything, which is what every source of texts is declared with.
-/

namespace RequestParams

namespace Shape

/-- A value of the first choice has the shape: it has the first member of each union on the way. -/
theorem admits_of_firstChoice_admits {shape : Shape} {value : Value}
    (admitted : shape.firstChoice.admits value = true) : shape.admits value = true := by
  induction shape with
  | scalar kind => exact admitted
  | list item _ => exact admitted
  | dict item _ => exact admitted
  | file => exact admitted
  | any => exact admitted
  | union members induction =>
      cases members with
      | nil => exact admitted
      | cons first rest =>
          rw [firstChoice] at admitted
          have first_admits := induction first List.mem_cons_self admitted
          rw [admits, anyAdmits_iff]
          exact ⟨first, List.mem_cons_self, first_admits⟩

/-- Below the top of any shape but that of files the defects are those of the whole. -/
theorem defect?_eq_nestedDefect? {shape : Shape} (not_file : shape ≠ .file) :
    shape.defect? = shape.nestedDefect? := by
  cases shape with
  | file => exact absurd rfl not_file
  | _ => rfl

/-- The first choice of a flat shape without empty unions is the shape of anything or a scalar. -/
theorem firstChoice_of_isFlat {shape : Shape} (flat : shape.isFlat = true)
    (sound : shape.nestedDefect? = none) :
    shape.firstChoice = .any ∨ ∃ kind, shape.firstChoice = .scalar kind := by
  induction shape with
  | scalar kind => exact .inr ⟨kind, rfl⟩
  | any => exact .inl rfl
  | list item _ => cases flat
  | dict item _ => cases flat
  | file => cases flat
  | union members induction =>
      cases members with
      | nil => cases sound
      | cons first rest =>
          have first_flat : first.isFlat = true := by
            rw [isFlat, areFlat, Bool.and_eq_true] at flat
            exact flat.1
          have first_sound : first.nestedDefect? = none := by
            cases defect : first.nestedDefect? with
            | none => rfl
            | some e => simp [nestedDefect?, membersDefect?, defect] at sound
          exact induction first List.mem_cons_self first_flat first_sound

end Shape

namespace Param

/-- Sources of texts are declared with flat shapes without empty unions. -/
theorem isFlat_of_isTextBearing (p : Param) (textual : p.source.isTextBearing = true) :
    p.shape.isFlat = true ∧ p.shape.nestedDefect? = none := by
  have shapeSound := (p.toDeclaration.defect?_eq_none_iff.mp p.sound).1
  rw [Declaration.shapeDefect?_eq_none_iff] at shapeSound
  rcases shapeSound with upload | ⟨no_defect, -, body | flat⟩
  · rw [upload] at textual
    cases textual
  · rw [body] at textual
    cases textual
  · refine ⟨flat, ?_⟩
    rwa [Shape.defect?_eq_nestedDefect? (by rintro upload; rw [upload] at flat; cases flat)]
      at no_defect

/-- The first choice of a parameter that is given as text is the shape of anything or a scalar. -/
theorem firstChoice_of_isTextBearing (p : Param) (textual : p.source.isTextBearing = true) :
    p.shape.firstChoice = .any ∨ ∃ kind, p.shape.firstChoice = .scalar kind := by
  obtain ⟨flat, sound⟩ := p.isFlat_of_isTextBearing textual
  exact Shape.firstChoice_of_isFlat flat sound

end Param

end RequestParams
