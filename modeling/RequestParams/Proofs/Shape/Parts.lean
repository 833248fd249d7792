import RequestParams.Proofs.Shape.Origins

/-!
# Parts of shapes

The parts of a shape are the shape itself and the parts of what it is built of. The walks over a
shape are statements about its parts: a defect is that of the first faulty part, the file type
occurs if it is a part, and a shape is flat if all of its parts are simple.
-/

namespace RequestParams

namespace Shape

mutual

/-- The parts of a shape, each before its own parts. -/
def parts : Shape → List Shape
  | scalar kind => [scalar kind]
  | file => [file]
  | any => [any]
  | list item => list item :: item.parts
  | dict item => dict item :: item.parts
  | union members => union members :: partsOfMembers members

/-- The parts of the members of a union, member by member. -/
def partsOfMembers : List Shape → List Shape
  | [] => []
  | member :: rest => member.parts ++ partsOfMembers rest

end

/-- Neither a container nor the file type; the members of a union are parts of their own. -/
inductive IsSimple : Shape → Prop
  | scalar (kind : Scalar) : IsSimple (.scalar kind)
  | any : IsSimple .any
  | union (members : List Shape) : IsSimple (.union members)

/-- A part that is in place nowhere below the top: an empty union or the file type. -/
def IsFaulty (part : Shape) : Prop := part = .union [] ∨ part = .file

/-- The defect of a faulty part. -/
def partDefect? : Shape → Option ConfigError
  | union [] => some .emptyUnion
  | file => some (.invalidShape none file.text "file type cannot be nested inside another type")
  | _ => none

/-- The part is in the shape, and no faulty one stands before it. -/
def FirstFault (shape part : Shape) : Prop :=
  ∃ before after, shape.parts = before ++ part :: after ∧ ∀ other ∈ before, ¬other.IsFaulty

theorem partDefect?_eq_none_iff (part : Shape) : part.partDefect? = none ↔ ¬part.IsFaulty := by
  unfold partDefect?
  split <;> simp_all [IsFaulty]

theorem partDefect?_eq_some_iff (part : Shape) (e : ConfigError) :
    part.partDefect? = some e ↔
      part = .union [] ∧ e = .emptyUnion ∨
        part = .file ∧
          e = .invalidShape none "File" "file type cannot be nested inside another type" := by
  unfold partDefect?
  split <;> simp_all [text, eq_comm]

theorem forall_not_isFaulty_iff (shapes : List Shape) :
    (∀ part ∈ shapes, ¬part.IsFaulty) ↔ .union [] ∉ shapes ∧ .file ∉ shapes := by
  constructor
  · intro faultless
    exact ⟨fun mem => faultless _ mem (.inl rfl), fun mem => faultless _ mem (.inr rfl)⟩
  · rintro ⟨no_empty, no_file⟩ part part_mem (rfl | rfl)
    · exact no_empty part_mem
    · exact no_file part_mem

theorem FirstFault.mem {shape part : Shape} (first : shape.FirstFault part) :
    part ∈ shape.parts := by
  obtain ⟨before, after, split, -⟩ := first
  rw [split]
  exact List.mem_append_right before List.mem_cons_self

theorem mem_partsOfMembers_iff (members : List Shape) (part : Shape) :
    part ∈ partsOfMembers members ↔ ∃ member ∈ members, part ∈ member.parts := by
  induction members with
  | nil => simp [partsOfMembers]
  | cons member members induction => simp [partsOfMembers, induction]

theorem forall_mem_partsOfMembers_iff (members : List Shape) (holds : Shape → Prop) :
    (∀ part ∈ partsOfMembers members, holds part) ↔
      ∀ member ∈ members, ∀ part ∈ member.parts, holds part := by
  constructor
  · intro all member member_mem part part_mem
    exact all part ((mem_partsOfMembers_iff members part).mpr ⟨member, member_mem, part_mem⟩)
  · intro each part part_mem
    obtain ⟨member, member_mem, in_member⟩ := (mem_partsOfMembers_iff members part).mp part_mem
    exact each member member_mem part in_member

/-! ## The walks as statements about parts -/

theorem membersDefect?_eq_findSome? (members : List Shape)
    (each : ∀ member ∈ members, member.nestedDefect? = member.parts.findSome? partDefect?) :
    membersDefect? members = (partsOfMembers members).findSome? partDefect? := by
  induction members with
  | nil => rfl
  | cons member members induction =>
      have rest := induction fun other other_mem => each other (List.mem_cons_of_mem _ other_mem)
      rw [membersDefect?, partsOfMembers, List.findSome?_append,
        ← each member List.mem_cons_self, ← rest]
      cases member.nestedDefect? <;> rfl

/-- The defect of a shape below the top is that of its first faulty part. -/
theorem nestedDefect?_eq_findSome? (shape : Shape) :
    shape.nestedDefect? = shape.parts.findSome? partDefect? := by
  induction shape with
  | scalar kind => rfl
  | file => rfl
  | any => rfl
  | list item induction => exact induction
  | dict item induction => exact induction
  | union members induction =>
      have rest := membersDefect?_eq_findSome? members induction
      cases members with
      | nil => rfl
      | cons member members => exact rest

theorem nestedDefect?_eq_none_iff (shape : Shape) :
    shape.nestedDefect? = none ↔ ∀ part ∈ shape.parts, ¬part.IsFaulty := by
  simp only [nestedDefect?_eq_findSome?, List.findSome?_eq_none_iff, partDefect?_eq_none_iff]

/-- The defect of a shape below the top, by its first faulty part. -/
theorem nestedDefect?_eq_some_iff (shape : Shape) (e : ConfigError) :
    shape.nestedDefect? = some e ↔
      shape.FirstFault (.union []) ∧ e = .emptyUnion ∨
        shape.FirstFault .file ∧
          e = .invalidShape none "File" "file type cannot be nested inside another type" := by
  rw [nestedDefect?_eq_findSome?, List.findSome?_eq_some_iff]
  simp only [partDefect?_eq_some_iff, partDefect?_eq_none_iff, FirstFault]
  constructor
  · rintro ⟨before, part, after, split, ⟨rfl, rfl⟩ | ⟨rfl, rfl⟩, sound⟩
    · exact .inl ⟨⟨before, after, split, sound⟩, rfl⟩
    · exact .inr ⟨⟨before, after, split, sound⟩, rfl⟩
  · rintro (⟨⟨before, after, split, sound⟩, rfl⟩ | ⟨⟨before, after, split, sound⟩, rfl⟩)
    · exact ⟨before, _, after, split, .inl ⟨rfl, rfl⟩, sound⟩
    · exact ⟨before, _, after, split, .inr ⟨rfl, rfl⟩, sound⟩

theorem anyContainsFile_iff (members : List Shape) :
    anyContainsFile members = true ↔ ∃ member ∈ members, member.containsFile = true := by
  induction members with
  | nil => simp [anyContainsFile]
  | cons member members induction => simp [anyContainsFile, induction]

theorem containsFile_iff (shape : Shape) : shape.containsFile = true ↔ .file ∈ shape.parts := by
  induction shape with
  | scalar kind => simp [containsFile, parts]
  | file => simp [containsFile, parts]
  | any => simp [containsFile, parts]
  | list item induction => simpa [containsFile, parts] using induction
  | dict item induction => simpa [containsFile, parts] using induction
  | union members induction =>
      have each : (∃ member ∈ members, member.containsFile = true) ↔
          ∃ member ∈ members, .file ∈ member.parts :=
        exists_congr fun member => and_congr_right (induction member)
      simpa [containsFile, parts, anyContainsFile_iff, mem_partsOfMembers_iff] using each

theorem areFlat_iff (members : List Shape) :
    areFlat members = true ↔ ∀ member ∈ members, member.isFlat = true := by
  induction members with
  | nil => simp [areFlat]
  | cons member members induction => simp [areFlat, induction]

theorem isFlat_iff (shape : Shape) :
    shape.isFlat = true ↔ ∀ part ∈ shape.parts, part.IsSimple := by
  induction shape with
  | scalar kind => simp [isFlat, parts, IsSimple.scalar]
  | any => simp [isFlat, parts, IsSimple.any]
  | file =>
      have not_simple : ¬IsSimple .file := nofun
      simp [isFlat, parts, not_simple]
  | list item _ =>
      have not_simple : ¬IsSimple (.list item) := nofun
      simp [isFlat, parts, not_simple]
  | dict item _ =>
      have not_simple : ¬IsSimple (.dict item) := nofun
      simp [isFlat, parts, not_simple]
  | union members induction =>
      rw [isFlat, areFlat_iff, parts, List.forall_mem_cons, forall_mem_partsOfMembers_iff,
        and_iff_right (IsSimple.union members)]
      exact forall₂_congr induction

end Shape

end RequestParams
