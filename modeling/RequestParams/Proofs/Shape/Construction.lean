import RequestParams.Proofs.Param.Legality

/-!
# Construction from the leaves

A shape can be built from its leaves upwards by constructors that look for defects at each step, or
written down as a whole and searched for defects from the top. Both routes admit the same shapes:
those without an empty union, and without the file type below the top. The constructors look for a
file type in every part that they are given, so that it stays in place only where it is the whole.
-/

namespace RequestParams.Shape

mutual

/-- Builds a shape from its leaves upwards. Leaves are taken as they are, and each container and
each union is built by its constructor from parts that are built before. -/
def construct : Shape → Except ConfigError Shape
  | scalar kind => .ok (scalar kind)
  | file => .ok file
  | any => .ok any
  | list item => do listOf (← item.construct)
  | dict item => do dictOf (← item.construct)
  | union members => do unionOf (← constructAll members)

/-- Builds shapes one after the other. -/
def constructAll : List Shape → Except ConfigError (List Shape)
  | [] => .ok []
  | member :: rest => do return (← member.construct) :: (← constructAll rest)

end

/-! ## One constructor -/

theorem bind_eq_ok_iff {α β ε : Type} (result : Except ε α) (next : α → Except ε β) (b : β) :
    (result >>= next) = .ok b ↔ ∃ a, result = .ok a ∧ next a = .ok b := by
  cases result with
  | error e => exact iff_of_false nofun nofun
  | ok a =>
      constructor
      · exact fun next_eq => ⟨a, rfl, next_eq⟩
      · rintro ⟨other, other_eq, next_eq⟩
        rw [← Except.ok.inj other_eq] at next_eq
        exact next_eq

/-- A constructor gives the shape that it stands for, unless it finds a defect. -/
theorem unlessDefect_eq_ok_iff (found : Option ConfigError) (shape built : Shape) :
    (match found with
      | some defect => Except.error defect
      | none => .ok shape) = .ok built ↔ found = none ∧ built = shape := by
  cases found with
  | some defect => simp
  | none => simp [eq_comm]

/-- A constructor fails with the defect that it finds. -/
theorem unlessDefect_eq_error_iff (found : Option ConfigError) (shape : Shape) (e : ConfigError) :
    (match found with
      | some defect => Except.error defect
      | none => .ok shape) = .error e ↔ found = some e := by
  cases found with
  | some defect => simp
  | none => simp

theorem listOf_eq_ok_iff (item built : Shape) :
    listOf item = .ok built ↔ item.nestedDefect? = none ∧ built = list item :=
  unlessDefect_eq_ok_iff _ _ _

theorem dictOf_eq_ok_iff (item built : Shape) :
    dictOf item = .ok built ↔ item.nestedDefect? = none ∧ built = dict item :=
  unlessDefect_eq_ok_iff _ _ _

theorem unionOf_eq_ok_iff (members : List Shape) (built : Shape) :
    unionOf members = .ok built ↔ (union members).defect? = none ∧ built = union members :=
  unlessDefect_eq_ok_iff _ _ _

/-! ## Defects -/

/-- What is free of defects below the top is free of them at the top. -/
theorem defect?_of_nestedDefect? {shape : Shape} (sound : shape.nestedDefect? = none) :
    shape.defect? = none := by
  cases shape with
  | file => rfl
  | _ => exact sound

/-- The members of a union free of defects are free of defects below the top. -/
theorem nestedDefect?_of_mem {members : List Shape} (sound : (union members).nestedDefect? = none)
    {member : Shape} (member_mem : member ∈ members) : member.nestedDefect? = none := by
  rw [nestedDefect?_eq_none_iff] at sound ⊢
  intro part part_mem
  have in_members := (mem_partsOfMembers_iff members part).mpr ⟨member, member_mem, part_mem⟩
  exact sound part (List.mem_cons_of_mem _ in_members)

/-- The search from the top finds nothing exactly if each union among the parts has a member and the
file type is a part of itself only. -/
theorem defect?_eq_none_iff_parts (shape : Shape) :
    shape.defect? = none ↔
      (∀ members, .union members ∈ shape.parts → members ≠ []) ∧
        (.file ∈ shape.parts → shape = .file) := by
  have no_empty : (∀ members, .union members ∈ shape.parts → members ≠ []) ↔
      .union [] ∉ shape.parts := by
    constructor
    · exact fun nonempty mem => nonempty [] mem rfl
    · rintro absent members mem rfl
      exact absent mem
  by_cases whole : shape = .file
  · simp [whole, defect?, parts]
  · rw [defect?_eq_nestedDefect? whole, nestedDefect?_eq_none_iff, forall_not_isFaulty_iff,
      no_empty]
    simp only [whole, imp_false]

/-! ## All constructors -/

theorem constructAll_eq_ok_iff {members : List Shape}
    (each : ∀ member ∈ members, ∀ built,
      member.construct = .ok built ↔ member.defect? = none ∧ built = member)
    (built : List Shape) :
    constructAll members = .ok built ↔
      (∀ member ∈ members, member.defect? = none) ∧ built = members := by
  induction members generalizing built with
  | nil => simp [constructAll, eq_comm]
  | cons member members induction =>
      have rest := induction fun other other_mem => each other (List.mem_cons_of_mem _ other_mem)
      simp only [constructAll, bind_eq_ok_iff, each member List.mem_cons_self, rest,
        List.forall_mem_cons]
      constructor
      · rintro ⟨_, ⟨sound, rfl⟩, _, ⟨all_sound, rfl⟩, built_eq⟩
        exact ⟨⟨sound, all_sound⟩, (Except.ok.inj built_eq).symm⟩
      · rintro ⟨⟨sound, all_sound⟩, rfl⟩
        exact ⟨member, ⟨sound, rfl⟩, members, ⟨all_sound, rfl⟩, rfl⟩

/-- A container is built exactly if its item has no defect below the top, whatever stopped the item
from being built being such a defect. -/
theorem construct_container_iff {item : Shape} {make : Shape → Except ConfigError Shape}
    {container : Shape → Shape}
    (constructed : ∀ built, item.construct = .ok built ↔ item.defect? = none ∧ built = item)
    (made : ∀ inner built, make inner = .ok built ↔
      inner.nestedDefect? = none ∧ built = container inner) (built : Shape) :
    (item.construct >>= make) = .ok built ↔
      item.nestedDefect? = none ∧ built = container item := by
  simp only [bind_eq_ok_iff, constructed, made]
  constructor
  · rintro ⟨_, ⟨-, rfl⟩, sound⟩
    exact sound
  · rintro ⟨sound, built_eq⟩
    exact ⟨item, ⟨defect?_of_nestedDefect? sound, rfl⟩, sound, built_eq⟩

/-- A shape is built from its leaves exactly if it is free of defects, and then as it is. -/
theorem construct_eq_ok_iff (shape built : Shape) :
    shape.construct = .ok built ↔ shape.defect? = none ∧ built = shape := by
  induction shape generalizing built with
  | scalar kind => simp [construct, defect?, nestedDefect?, eq_comm]
  | file => simp [construct, defect?, eq_comm]
  | any => simp [construct, defect?, nestedDefect?, eq_comm]
  | list item induction => exact construct_container_iff induction listOf_eq_ok_iff built
  | dict item induction => exact construct_container_iff induction dictOf_eq_ok_iff built
  | union members induction =>
      simp only [construct, bind_eq_ok_iff, constructAll_eq_ok_iff induction, unionOf_eq_ok_iff]
      constructor
      · rintro ⟨_, ⟨-, rfl⟩, sound⟩
        exact sound
      · rintro ⟨sound, built_eq⟩
        have each_sound : ∀ member ∈ members, member.defect? = none := fun member member_mem =>
          defect?_of_nestedDefect? (nestedDefect?_of_mem sound member_mem)
        exact ⟨members, ⟨each_sound, rfl⟩, sound, built_eq⟩

/-- A shape is built from its leaves upwards, and as it is, exactly if the search for defects finds
none. It finds none exactly if each union at any depth has a member and the file type occurs only
where it is the whole shape, so that a shape free of defects contains the file type only by being
it. -/
theorem construction_agrees_with_search (shape : Shape) :
    (∀ built, shape.construct = .ok built ↔ shape.defect? = none ∧ built = shape) ∧
    (shape.defect? = none ↔
      (∀ members, .union members ∈ shape.parts → members ≠ []) ∧
        (.file ∈ shape.parts → shape = .file)) ∧
    (shape.defect? = none → (shape.containsFile = true ↔ shape = .file)) := by
  refine ⟨construct_eq_ok_iff shape, defect?_eq_none_iff_parts shape, fun sound => ?_⟩
  rw [containsFile_iff]
  constructor
  · exact ((defect?_eq_none_iff_parts shape).mp sound).2
  · rintro rfl
    exact List.mem_singleton_self _

/-- Texts, or lists of mappings whose values are again one of two. -/
def nestedUnions : Shape :=
  .union [.scalar .str, .list (.dict (.union [.scalar .int, .union [.any]]))]

/-- A shape of nested unions is built as it is, and contains no file type. -/
theorem construction_agrees_with_search_nested :
    nestedUnions.defect? = none ∧ nestedUnions.construct = .ok nestedUnions ∧
      (nestedUnions.containsFile = true ↔ nestedUnions = .file) := by
  have sound : nestedUnions.defect? = none := rfl
  obtain ⟨constructed, -, only_whole⟩ := construction_agrees_with_search nestedUnions
  exact ⟨sound, (constructed nestedUnions).mpr ⟨sound, rfl⟩, only_whole sound⟩

end RequestParams.Shape
