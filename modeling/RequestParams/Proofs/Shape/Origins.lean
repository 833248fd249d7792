import RequestParams.Shape.Membership

/-!
# Kinds of values and origins of shapes

The origins of a shape are the kinds of its outermost alternatives. A value that has the shape is of
one of these kinds, unless one of the alternatives is the shape of anything. The proof is an
induction over nested unions, for which this file states the principle once.
-/

namespace RequestParams

/-- The origin that a value's kind is, if it is one: null is of no declared kind. -/
def Value.origin? : Value → Option Origin
  | .null => none
  | .bool _ => some .bool
  | .int _ => some .int
  | .float _ => some .float
  | .str _ => some .str
  | .list _ => some .list
  | .dict _ => some .dict
  | .files _ => some .file

namespace Shape

/-- Induction over shapes: a union has the property if each of its members has. -/
@[induction_eliminator]
theorem inductionOnMembers {motive : Shape → Prop} (scalar : ∀ kind, motive (.scalar kind))
    (list : ∀ item, motive item → motive (.list item))
    (dict : ∀ item, motive item → motive (.dict item))
    (file : motive .file) (any : motive .any)
    (union : ∀ members, (∀ member ∈ members, motive member) → motive (.union members)) :
    ∀ shape, motive shape
  | .scalar kind => scalar kind
  | .list item => list item (inductionOnMembers scalar list dict file any union item)
  | .dict item => dict item (inductionOnMembers scalar list dict file any union item)
  | .file => file
  | .any => any
  | .union members =>
      union members fun member _ => inductionOnMembers scalar list dict file any union member

/-- A union admits what one of its members admits. -/
theorem anyAdmits_iff (members : List Shape) (value : Value) :
    anyAdmits members value = true ↔ ∃ member ∈ members, member.admits value = true := by
  induction members with
  | nil => simp [anyAdmits]
  | cons member members induction => simp [anyAdmits, induction]

/-- The alternatives of a union are those of its members. -/
theorem mem_memberAlternatives_iff (members : List Shape) (origin : Origin) :
    origin ∈ memberAlternatives members ↔ ∃ member ∈ members, origin ∈ member.alternatives := by
  induction members with
  | nil => simp [memberAlternatives]
  | cons member members induction => simp [memberAlternatives, induction]

/-- Dropping repeated origins loses none. -/
theorem mem_firstOccurrences_iff (origins : List Origin) (origin : Origin) :
    origin ∈ firstOccurrences origins ↔ origin ∈ origins := by
  -- The fold passes on the origins seen so far, so the claim is needed for any of them.
  suffices collected : ∀ seen : List Origin,
      origin ∈ origins.foldl
          (fun seen origin => if origin ∈ seen then seen else seen ++ [origin]) seen ↔
        origin ∈ seen ∨ origin ∈ origins by
    simpa [firstOccurrences] using collected []
  induction origins with
  | nil => simp
  | cons first origins induction =>
      intro seen
      rw [List.foldl_cons, induction, List.mem_cons]
      split
      · rename_i known
        constructor
        · rintro (old | new)
          · exact .inl old
          · exact .inr (.inr new)
        · rintro (old | rfl | new)
          · exact .inl old
          · exact .inl known
          · exact .inr new
      · simp [or_assoc]

theorem mem_origins_iff (shape : Shape) (origin : Origin) :
    origin ∈ shape.origins ↔ origin ∈ shape.alternatives :=
  mem_firstOccurrences_iff shape.alternatives origin

theorem nodup_firstOccurrences (origins : List Origin) : (firstOccurrences origins).Nodup := by
  suffices collected : ∀ seen : List Origin, seen.Nodup →
      (origins.foldl (fun seen origin => if origin ∈ seen then seen else seen ++ [origin])
        seen).Nodup from collected [] List.nodup_nil
  induction origins with
  | nil => exact fun seen distinct => distinct
  | cons first origins induction =>
      intro seen distinct
      rw [List.foldl_cons]
      apply induction
      split
      · exact distinct
      · rename_i fresh
        refine List.nodup_append.mpr ⟨distinct, by simp, fun origin known last last_mem => ?_⟩
        rw [List.mem_singleton.mp last_mem]
        rintro rfl
        exact fresh known

theorem nodup_origins (shape : Shape) : shape.origins.Nodup :=
  nodup_firstOccurrences shape.alternatives

/-- A scalar kind admits values of its own origin. -/
theorem origin?_of_scalar_admits {kind : Scalar} {value : Value}
    (admitted : kind.admits value = true) : value.origin? = some kind.origin := by
  cases kind <;> cases value <;> simp_all [Scalar.admits, Value.origin?, Scalar.origin]

/-- A value that has a shape is of the kind of one of its alternatives, or one of them is the shape
of anything. -/
theorem origin_of_admits {shape : Shape} {value : Value} (admitted : shape.admits value = true) :
    ∃ origin ∈ shape.origins, origin = .any ∨ value.origin? = some origin := by
  simp only [mem_origins_iff]
  induction shape with
  | scalar kind =>
      rw [admits] at admitted
      exact ⟨kind.origin, by simp [alternatives], .inr (origin?_of_scalar_admits admitted)⟩
  | list item _ =>
      cases value <;> simp [admits] at admitted
      exact ⟨.list, by simp [alternatives], .inr rfl⟩
  | dict item _ =>
      cases value <;> simp [admits] at admitted
      exact ⟨.dict, by simp [alternatives], .inr rfl⟩
  | file =>
      cases value <;> simp [admits] at admitted
      exact ⟨.file, by simp [alternatives], .inr rfl⟩
  -- Null is of no origin, and this shape is the only one that admits it.
  | any => exact ⟨.any, by simp [alternatives], .inl rfl⟩
  | union members induction =>
      rw [admits, anyAdmits_iff] at admitted
      obtain ⟨member, member_mem, member_admits⟩ := admitted
      obtain ⟨origin, origin_mem, covers⟩ := induction member member_mem member_admits
      rw [alternatives]
      exact ⟨origin, (mem_memberAlternatives_iff members origin).mpr
        ⟨member, member_mem, origin_mem⟩, covers⟩

end Shape

end RequestParams
