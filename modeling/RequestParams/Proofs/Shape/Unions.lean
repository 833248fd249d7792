import Mathlib.Logic.Relation
import RequestParams.Proofs.Shape.Origins

/-!
# The structure of unions

A union stands for the set of its members. The order in which they are listed, how often each one is
listed and how they are nested has no influence on the values that a shape admits, nor on its
origins, wherever in the shape the union stands. Only the first choice depends on it.
-/

namespace RequestParams.Shape

/-- A change to a union that leaves the set of its alternatives as it is. -/
inductive Restructures : Shape → Shape → Prop
  /-- The members in another order. -/
  | reorder {members others : List Shape} (perm : members.Perm others) :
      Restructures (.union members) (.union others)
  /-- A member once more, at any place. -/
  | duplicate (before after : List Shape) {member : Shape} (known : member ∈ before ++ after) :
      Restructures (.union (before ++ after)) (.union (before ++ member :: after))
  /-- The members of a nested union in its place. -/
  | splice (before members after : List Shape) :
      Restructures (.union (before ++ .union members :: after))
        (.union (before ++ members ++ after))
  /-- The only member in place of the union. -/
  | unwrap (member : Shape) : Restructures (.union [member]) member

/-- One change to a union somewhere in a shape. -/
inductive RestructuresWithin : Shape → Shape → Prop
  | whole {shape other : Shape} (step : shape.Restructures other) : RestructuresWithin shape other
  | list {item other : Shape} (inside : RestructuresWithin item other) :
      RestructuresWithin (.list item) (.list other)
  | dict {item other : Shape} (inside : RestructuresWithin item other) :
      RestructuresWithin (.dict item) (.dict other)
  | member {member other : Shape} (before after : List Shape)
      (inside : RestructuresWithin member other) :
      RestructuresWithin (.union (before ++ member :: after)) (.union (before ++ other :: after))

/-- The shapes differ by any number of such changes, made or undone. -/
def SameButUnions : Shape → Shape → Prop := Relation.EqvGen RestructuresWithin

/-! ## Properties of some member -/

/-- A property that a union has exactly if one of its members has it. -/
def IsOfSomeMember (holds : Shape → Prop) : Prop :=
  ∀ members, holds (.union members) ↔ ∃ member ∈ members, holds member

theorem isOfSomeMember_admits (value : Value) :
    IsOfSomeMember fun shape => shape.admits value = true := by
  intro members
  simp only [admits, anyAdmits_iff]

theorem isOfSomeMember_alternatives (origin : Origin) :
    IsOfSomeMember fun shape => origin ∈ shape.alternatives := by
  intro members
  simp only [alternatives, mem_memberAlternatives_iff]

section

variable {holds : Shape → Prop}

theorem exists_mem_append_cons_iff (before after : List Shape) (member : Shape) :
    (∃ other ∈ before ++ member :: after, holds other) ↔
      holds member ∨ ∃ other ∈ before ++ after, holds other := by
  simp only [List.mem_append, List.mem_cons, or_and_right, exists_or, exists_eq_left]
  exact or_left_comm

/-- A change to a union keeps each property of some member. -/
theorem Restructures.iff (of_some : IsOfSomeMember holds) {shape other : Shape}
    (step : shape.Restructures other) : holds shape ↔ holds other := by
  cases step with
  | reorder perm =>
      rw [of_some, of_some]
      exact exists_congr fun member => and_congr_left' perm.mem_iff
  | @duplicate before after member known =>
      have known_holds : holds member → ∃ other ∈ before ++ after, holds other :=
        fun member_holds => ⟨member, known, member_holds⟩
      rw [of_some, of_some, exists_mem_append_cons_iff, or_iff_right_of_imp known_holds]
  | splice before members after =>
      rw [of_some, of_some, exists_mem_append_cons_iff, of_some]
      simp only [List.mem_append, or_and_right, exists_or]
      rw [or_left_comm, or_assoc]
  | unwrap member =>
      rw [of_some]
      simp only [List.mem_singleton, exists_eq_left]

/-- A change inside one member keeps each property of some member that it keeps of this one. -/
theorem IsOfSomeMember.iff_of_member (of_some : IsOfSomeMember holds) (before after : List Shape)
    {member other : Shape} (same : holds member ↔ holds other) :
    holds (.union (before ++ member :: after)) ↔ holds (.union (before ++ other :: after)) := by
  rw [of_some, of_some, exists_mem_append_cons_iff, exists_mem_append_cons_iff, same]

end

/-! ## Membership and origins -/

theorem RestructuresWithin.admits_eq {shape other : Shape} (step : shape.RestructuresWithin other)
    (value : Value) : shape.admits value = other.admits value := by
  -- The items of a container are other values, so the claim is needed for all of them.
  induction step generalizing value with
  | whole step =>
      rw [Bool.eq_iff_iff]
      exact step.iff (isOfSomeMember_admits value)
  | list _ induction =>
      cases value <;> simp only [admits, induction]
  | dict _ induction =>
      cases value <;> simp only [admits, induction]
  | member before after _ induction =>
      rw [Bool.eq_iff_iff]
      exact (isOfSomeMember_admits value).iff_of_member before after
        (Bool.eq_iff_iff.mp (induction value))

theorem RestructuresWithin.mem_alternatives_iff {shape other : Shape}
    (step : shape.RestructuresWithin other) (origin : Origin) :
    origin ∈ shape.alternatives ↔ origin ∈ other.alternatives := by
  induction step with
  | whole step => exact step.iff (isOfSomeMember_alternatives origin)
  | list _ _ => simp only [alternatives]
  | dict _ _ => simp only [alternatives]
  | member before after _ induction =>
      exact (isOfSomeMember_alternatives origin).iff_of_member before after induction

/-- What no single change alters is the same for both shapes. -/
theorem SameButUnions.value_eq {α : Type} (f : Shape → α)
    (kept : ∀ {shape other}, RestructuresWithin shape other → f shape = f other)
    {shape other : Shape} (same : shape.SameButUnions other) : f shape = f other := by
  induction same with
  | rel _ _ step => exact kept step
  | refl _ => rfl
  | symm _ _ _ induction => exact induction.symm
  | trans _ _ _ _ _ first second => exact first.trans second

theorem SameButUnions.admits_eq {shape other : Shape} (same : shape.SameButUnions other)
    (value : Value) : shape.admits value = other.admits value :=
  same.value_eq (fun shape => shape.admits value) fun step => step.admits_eq value

theorem SameButUnions.mem_origins_iff {shape other : Shape} (same : shape.SameButUnions other)
    (origin : Origin) : origin ∈ shape.origins ↔ origin ∈ other.origins := by
  rw [Shape.mem_origins_iff, Shape.mem_origins_iff]
  exact iff_of_eq <| same.value_eq (fun shape => origin ∈ shape.alternatives)
    fun step => propext (step.mem_alternatives_iff origin)

/-- Shapes that differ in the order, repetition and nesting of the members of unions, at any depth,
admit the same values and have the same origins, each listed once. -/
theorem union_structure_irrelevant {shape other : Shape} (same : shape.SameButUnions other) :
    (∀ value, shape.admits value = other.admits value) ∧
      shape.origins.Nodup ∧ other.origins.Nodup ∧
        ∀ origin, origin ∈ shape.origins ↔ origin ∈ other.origins :=
  ⟨same.admits_eq, shape.nodup_origins, other.nodup_origins, same.mem_origins_iff⟩

/-- Changes inside a part of a shape are changes of the shape. -/
theorem SameButUnions.within (context : Shape → Shape)
    (lift : ∀ {inner other}, RestructuresWithin inner other →
      RestructuresWithin (context inner) (context other))
    {inner other : Shape} (same : inner.SameButUnions other) :
    (context inner).SameButUnions (context other) := by
  induction same with
  | rel _ _ step => exact .rel _ _ (lift step)
  | refl _ => exact .refl _
  | symm _ _ _ induction => exact .symm _ _ induction
  | trans _ _ _ _ _ first second => exact .trans _ _ _ first second

/-- Integers and texts, both in a nested union and beside it. -/
def tangledItems : Shape :=
  .union [.scalar .int, .union [.scalar .str, .scalar .int], .scalar .str]

/-- Texts and integers. -/
def plainItems : Shape := .union [.scalar .str, .scalar .int]

/-- Texts, in a union of their own, or lists. -/
def tangledUnions : Shape := .union [.union [.scalar .str], .list tangledItems]

/-- Lists or texts. -/
def plainUnions : Shape := .union [.list plainItems, .scalar .str]

theorem sameButUnions_items : tangledItems.SameButUnions plainItems := by
  have spliced : RestructuresWithin tangledItems
      (.union [.scalar .int, .scalar .str, .scalar .int, .scalar .str]) :=
    .whole (.splice [.scalar .int] [.scalar .str, .scalar .int] [.scalar .str])
  have text_again : RestructuresWithin plainItems
      (.union [.scalar .str, .scalar .int, .scalar .str]) :=
    .whole (.duplicate [.scalar .str, .scalar .int] [] (by simp))
  have integer_again : RestructuresWithin (.union [.scalar .str, .scalar .int, .scalar .str])
      (.union [.scalar .int, .scalar .str, .scalar .int, .scalar .str]) :=
    .whole (.duplicate [] _ (by simp))
  exact .trans _ _ _ (.rel _ _ spliced)
    (.symm _ _ (.trans _ _ _ (.rel _ _ text_again) (.rel _ _ integer_again)))

theorem sameButUnions_tangled : tangledUnions.SameButUnions plainUnions := by
  have turned : RestructuresWithin tangledUnions
      (.union [.list tangledItems, .union [.scalar .str]]) :=
    .whole (.reorder (.swap _ _ _))
  have unwrapped : RestructuresWithin (.union [.list tangledItems, .union [.scalar .str]])
      (.union [.list tangledItems, .scalar .str]) :=
    .member [.list tangledItems] [] (.whole (.unwrap _))
  have items_same : SameButUnions (.union [.list tangledItems, .scalar .str]) plainUnions :=
    sameButUnions_items.within (fun items => .union [.list items, .scalar .str])
      fun inside => .member [] [.scalar .str] (.list inside)
  exact .trans _ _ _ (.trans _ _ _ (.rel _ _ turned) (.rel _ _ unwrapped)) items_same

/-- Both shapes refuse a list with a truth value, which neither has among its items, and both have
texts and lists as their origins. -/
theorem union_structure_irrelevant_tangled :
    tangledUnions.SameButUnions plainUnions ∧
      plainUnions.admits (.list [.int 1, .str "b", .bool true]) = false ∧
      tangledUnions.admits (.list [.int 1, .str "b", .bool true]) = false ∧
      plainUnions.origins = [.list, .str] ∧ tangledUnions.origins.Nodup ∧
      ∀ origin, origin ∈ tangledUnions.origins ↔ origin ∈ [Origin.list, .str] := by
  obtain ⟨admits_eq, distinct, -, same_origins⟩ := union_structure_irrelevant sameButUnions_tangled
  have refused : plainUnions.admits (.list [.int 1, .str "b", .bool true]) = false := rfl
  have plain_origins : plainUnions.origins = [.list, .str] := rfl
  exact ⟨sameButUnions_tangled, refused, (admits_eq _).trans refused, plain_origins, distinct,
    fun origin => plain_origins ▸ same_origins origin⟩

end RequestParams.Shape
