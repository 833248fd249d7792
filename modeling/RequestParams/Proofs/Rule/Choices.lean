import RequestParams.Proofs.Numeric.Order
import RequestParams.Rule

/-!
# Numbers among choices

A number is one of the choices if a choice has its exact value. It is also taken for one if it is an
integer beyond `2 ^ 53` that rounds to a double among the choices, or a double to which such an
integer among them rounds.
-/

namespace RequestParams

namespace Numeric

open Binary64

/-- An integer beyond `2 ^ 53` and the double that it rounds to, in either order. -/
inductive RoundsOnto : Numeric → Numeric → Prop
  | int_float {n : Int64} {x : Binary64} (large : Nat.pow 2 53 < n.toInt.natAbs)
      (rounds : (ofInt n.toInt).equals x = true) : RoundsOnto (int n) (float x)
  | float_int {n : Int64} {x : Binary64} (large : Nat.pow 2 53 < n.toInt.natAbs)
      (rounds : (ofInt n.toInt).equals x = true) : RoundsOnto (float x) (int n)

theorem RoundsOnto.compare?_eq {m n : Numeric} (onto : RoundsOnto m n) :
    m.compare? n = some .eq := by
  rw [compare?_eq_some_eq_iff]
  cases onto with
  | int_float large rounds =>
      obtain ⟨not_nan, rounded⟩ := (ofInt_equals_iff _ _).mp rounds
      exact ⟨⟨rfl, not_nan⟩, rounded.trans (nearestSigned_units _).symm⟩
  | float_int large rounds =>
      obtain ⟨not_nan, rounded⟩ := (ofInt_equals_iff _ _).mp rounds
      exact ⟨⟨not_nan, rfl⟩, (nearestSigned_units _).trans rounded.symm⟩

theorem roundsOnto_of_compare?_eq {m n : Numeric} (rounded : ¬AreComparedExactly m n)
    (equal : m.compare? n = some .eq) : RoundsOnto m n := by
  obtain ⟨⟨m_not_nan, n_not_nan⟩, against_eq⟩ := (compare?_eq_some_eq_iff m n).mp equal
  match m, n with
  | int i, int j => exact absurd trivial rounded
  | float x, float y => exact absurd trivial rounded
  | int i, float x =>
      have onto := (ofInt_equals_iff i x).mpr
        ⟨n_not_nan, against_eq.trans (nearestSigned_units x)⟩
      exact .int_float (not_le.mp rounded) onto
  | float x, int i =>
      have onto := (ofInt_equals_iff i x).mpr
        ⟨m_not_nan, against_eq.symm.trans (nearestSigned_units x)⟩
      exact .float_int (not_le.mp rounded) onto

/-- Numbers compare as equal if they have one exact value or if one is rounded onto the other. -/
theorem compare?_eq_some_eq_iff_value? (m : Numeric) {n : Numeric} {q : WithBotTop ℚ}
    (n_value : n.value? = some q) :
    m.compare? n = some .eq ↔ m.value? = some q ∨ RoundsOnto m n := by
  constructor
  · intro equal
    by_cases unrounded : AreComparedExactly m n
    · obtain ⟨⟨m_not_nan, -⟩, against_eq⟩ := (compare?_eq_some_eq_iff m n).mp equal
      obtain ⟨m_value, -⟩ := value?_of_not_isNaN m_not_nan
      obtain ⟨m_units, n_units⟩ := unitsAgainst_eq_units unrounded
      rw [m_units, n_units] at against_eq
      rw [m_value, against_eq, (valueOfUnits_of_value? n_value).1]
      exact .inl rfl
    · exact .inr (roundsOnto_of_compare?_eq unrounded equal)
  · rintro (m_value | onto)
    · have units_le := (value_le_iff_units_le m_value n_value).mp le_rfl
      have units_ge := (value_le_iff_units_le n_value m_value).mp le_rfl
      rw [compare?_of_value? m_value n_value, Option.some_inj, cmp_eq_eq_iff]
      exact (unitsAgainst_le units_le).antisymm (unitsAgainst_le units_ge)
    · exact onto.compare?_eq

end Numeric

namespace Rule

open Numeric

variable {choices : List Value} (nonempty : choices ≠ [])

theorem accepts_oneOf {v : Value} {n : Numeric} (v_number : v.number? = some n) :
    (oneOf choices nonempty).accepts v = true ↔
      ∃ choice ∈ choices, ∃ m, choice.number? = some m ∧ m.compare? n = some .eq := by
  rw [accepts, isOneOf, v_number]
  simp only [List.any_eq_true, Option.any_eq_true, beq_iff_eq]

/-- A number is accepted exactly if a choice has its exact value or if, of the number and a choice,
one is an integer beyond `2 ^ 53` and the other the double that it rounds to. -/
theorem accepts_oneOf_number_iff {v : Value} {n : Numeric} {q : WithBotTop ℚ}
    (v_number : v.number? = some n) (n_value : n.value? = some q) :
    (oneOf choices nonempty).accepts v = true ↔
      ∃ choice ∈ choices, ∃ m, choice.number? = some m ∧
        (m.value? = some q ∨ RoundsOnto m n) := by
  simp only [accepts_oneOf nonempty v_number, compare?_eq_some_eq_iff_value? _ n_value]

/-- The integer after `2 ^ 53` is found by its own value behind the double that it rounds to. -/
theorem accepts_oneOf_number_iff_beyond_doubles :
    (Value.int 9007199254740993).number? = some (int 9007199254740993) ∧
      (int 9007199254740993).value? = some ((9007199254740993 : ℚ) : WithBotTop ℚ) ∧
      (oneOf [.float twoPow53, .int 9007199254740993] (List.cons_ne_nil _ _)).accepts
        (.int 9007199254740993) = true := by
  have v_value : (int 9007199254740993).value? =
      some ((9007199254740993 : ℚ) : WithBotTop ℚ) := by decide +kernel
  exact ⟨rfl, v_value, (accepts_oneOf_number_iff _ rfl v_value).mpr
    ⟨.int 9007199254740993, by simp, _, rfl, .inl v_value⟩⟩

/-- The double `2 ^ 53` is accepted where the next integer is the only choice. -/
theorem accepts_oneOf_of_no_equal_value :
    ¬∀ (choices : List Value) (nonempty : choices ≠ []) (v : Value) (n : Numeric)
      (q : WithBotTop ℚ), v.number? = some n → n.value? = some q →
        ((oneOf choices nonempty).accepts v = true ↔
          ∃ choice ∈ choices, ∃ m, choice.number? = some m ∧ m.value? = some q) := by
  intro exact_membership
  have v_value : (float twoPow53).value? =
      some ((9007199254740992 : ℚ) : WithBotTop ℚ) := by decide +kernel
  have accepted : (oneOf [.int 9007199254740993] (List.cons_ne_nil _ _)).accepts
      (.float twoPow53) = true := by decide +kernel
  obtain ⟨choice, choice_mem, m, m_number, m_value⟩ :=
    (exact_membership _ _ (.float twoPow53) _ _ rfl v_value).mp accepted
  obtain rfl := List.mem_singleton.mp choice_mem
  obtain rfl := Option.some.inj m_number
  exact absurd m_value (by decide +kernel)

end Rule

end RequestParams
