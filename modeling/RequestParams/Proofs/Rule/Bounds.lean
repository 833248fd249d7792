import RequestParams.Proofs.Numeric.Order
import RequestParams.Rule

/-!
# Bounds on numbers

A bound never refuses a number that is exactly on its right side, since rounding does not reverse
the order. Bounds follow from one another as their order says, with one exception: two integers that
round to one double are each equal to it, though one of them is less than the other.
-/

namespace RequestParams

namespace Numeric

open Binary64

/-- An integer, a double and a greater integer, where both integers round to the double. -/
inductive RoundTogether : Numeric → Numeric → Numeric → Prop
  | meet {m n : Int64} {x : Binary64} (lt : m.toInt < n.toInt)
      (left : (ofInt m.toInt).equals x = true) (right : (ofInt n.toInt).equals x = true) :
      RoundTogether (int m) (float x) (int n)

theorem RoundTogether.not_isAtMost {x y z : Numeric} (together : RoundTogether x y z) :
    ¬z.isAtMost x = true := by
  cases together with
  | meet lt left right =>
      rw [isAtMost_int_iff]
      omega

theorem roundTogether_of_not_isAtMost {x y z : Numeric} (upper : y.isAtMost x = true)
    (lower : z.isAtMost y = true) (reversed : ¬z.isAtMost x = true) : RoundTogether x y z := by
  have lower_rounded := nearestSigned_le_of_isAtMost lower
  have upper_rounded := nearestSigned_le_of_isAtMost upper
  have rounded_le := lower_rounded.trans upper_rounded
  obtain ⟨⟨y_not_nan, x_not_nan⟩, upper_le⟩ := (isAtMost_iff y x).mp upper
  obtain ⟨⟨z_not_nan, -⟩, lower_le⟩ := (isAtMost_iff z y).mp lower
  rw [isAtMost_iff, and_iff_right ⟨z_not_nan, x_not_nan⟩] at reversed
  -- Only two integers are compared by other numbers than their rounded ones.
  match x, z with
  | float x, int n => exact absurd rounded_le reversed
  | int m, float z => exact absurd rounded_le reversed
  | float x, float z => exact absurd rounded_le reversed
  | int m, int n =>
      match y with
      | int l => exact absurd (lower_le.trans upper_le) reversed
      | float y =>
          have lt : m.toInt < n.toInt := by
            rw [← not_le, ← units_int_le_iff]
            exact reversed
          have rounded_ge : nearestSigned (int m).units ≤ nearestSigned (int n).units :=
            nearestSigned_mono (not_le.mp reversed).le
          have y_kept : nearestSigned (float y).units = y.units := nearestSigned_units y
          rw [y_kept] at lower_rounded upper_rounded
          exact .meet lt ((ofInt_equals_iff m y).mpr ⟨y_not_nan, by omega⟩)
            ((ofInt_equals_iff n y).mpr ⟨y_not_nan, by omega⟩)

/-- The order of numbers is transitive but for integers that round together. -/
theorem isAtMost_trans_iff {x y z : Numeric} (upper : y.isAtMost x = true)
    (lower : z.isAtMost y = true) : z.isAtMost x = true ↔ ¬RoundTogether x y z :=
  ⟨fun le together => together.not_isAtMost le, fun apart =>
    by_contra fun reversed => apart (roundTogether_of_not_isAtMost upper lower reversed)⟩

end Numeric

namespace Rule

open Numeric

theorem accepts_min {v : Value} {n : Numeric} (v_number : v.number? = some n) (bound : Numeric) :
    (min bound).accepts v = bound.isAtMost n := by
  rw [accepts, v_number, Option.any_some]

theorem accepts_max {v : Value} {n : Numeric} (v_number : v.number? = some n) (bound : Numeric) :
    (max bound).accepts v = n.isAtMost bound := by
  rw [accepts, v_number, Option.any_some, isAtLeast_eq_isAtMost]

/-- The comparison of numbers never reverses the order of their exact values, and it is the order of
these where no integer beyond `2 ^ 53` meets a double. So no bound refuses a number that is exactly
on its right side. -/
theorem compare?_never_reverses {a b : Numeric} {p q : WithBotTop ℚ} (a_value : a.value? = some p)
    (b_value : b.value? = some q) :
    (p < q → a.compare? b = some .lt ∨ a.compare? b = some .eq) ∧
    (AreComparedExactly a b → a.compare? b = some (cmp p q)) ∧
    ∀ v : Value, v.number? = some a →
      (q ≤ p → (min b).accepts v = true) ∧ (p ≤ q → (max b).accepts v = true) := by
  refine ⟨fun lt => ?_, fun unrounded => ?_, fun v v_number => ⟨fun le => ?_, fun le => ?_⟩⟩
  · have units_le := (value_le_iff_units_le a_value b_value).mp lt.le
    rw [compare?_of_value? a_value b_value, Option.some_inj, Option.some_inj, cmp_eq_lt_iff,
      cmp_eq_eq_iff]
    exact (unitsAgainst_le units_le).lt_or_eq
  · obtain ⟨a_units, b_units⟩ := unitsAgainst_eq_units unrounded
    rw [compare?_of_value? a_value b_value, a_units, b_units,
      cmp_value_eq_cmp_units a_value b_value]
  · rw [accepts_min v_number]
    exact isAtMost_of_value_le b_value a_value le
  · rw [accepts_max v_number]
    exact isAtMost_of_value_le a_value b_value le

/-- The double `2 ^ 53` is below the next integer, which no double has, and within it as a bound. -/
theorem compare?_never_reverses_beyond_doubles :
    (float twoPow53).value? = some ((9007199254740992 : ℚ) : WithBotTop ℚ) ∧
      (int 9007199254740993).value? = some ((9007199254740993 : ℚ) : WithBotTop ℚ) ∧
      ((9007199254740992 : ℚ) : WithBotTop ℚ) < ((9007199254740993 : ℚ) : WithBotTop ℚ) ∧
      ((float twoPow53).compare? (int 9007199254740993) = some .lt ∨
        (float twoPow53).compare? (int 9007199254740993) = some .eq) ∧
      (max (int 9007199254740993)).accepts (.float twoPow53) = true := by
  have low_value : (float twoPow53).value? =
      some ((9007199254740992 : ℚ) : WithBotTop ℚ) := by decide +kernel
  have high_value : (int 9007199254740993).value? =
      some ((9007199254740993 : ℚ) : WithBotTop ℚ) := by decide +kernel
  have lt : ((9007199254740992 : ℚ) : WithBotTop ℚ) < ((9007199254740993 : ℚ) : WithBotTop ℚ) :=
    WithBotTop.coe_lt_coe.mpr (by decide +kernel)
  obtain ⟨not_reversed, -, within⟩ := compare?_never_reverses low_value high_value
  exact ⟨low_value, high_value, lt, not_reversed lt, (within (.float _) rfl).2 lt.le⟩

/-- Numbers in falling order compose, and a number within a bound is within every wider one, but for
two integers in the wrong order that round to the double between them. -/
theorem bounds_compose_iff (x y z : Numeric) :
    (y.isAtMost x = true → z.isAtMost y = true →
      (z.isAtMost x = true ↔ ¬RoundTogether x y z)) ∧
    ∀ v : Value, v.number? = some x →
      ((min y).accepts v = true → z.isAtMost y = true →
        ((min z).accepts v = true ↔ ¬RoundTogether x y z)) ∧
      ((max y).accepts v = true → y.isAtMost z = true →
        ((max z).accepts v = true ↔ ¬RoundTogether z y x)) := by
  refine ⟨isAtMost_trans_iff, fun v v_number =>
    ⟨fun accepted lower => ?_, fun accepted upper => ?_⟩⟩
  · rw [accepts_min v_number] at accepted ⊢
    exact isAtMost_trans_iff accepted lower
  · rw [accepts_max v_number] at accepted ⊢
    exact isAtMost_trans_iff upper accepted

/-- Of two integers that round to one double the greater is above the double, and that above the
lesser. -/
theorem bounds_compose_iff_neighbours :
    ((float twoPow53).isAtMost (int 9007199254740993) = true ∧
      (int 9007199254740992).isAtMost (float twoPow53) = true ∧
      (int 9007199254740992).isAtMost (int 9007199254740993) = true) ∧
    ((min (float twoPow53)).accepts (.int 9007199254740993) = true ∧
      (min (int 9007199254740992)).accepts (.int 9007199254740993) = true) ∧
    (max (float twoPow53)).accepts (.int 9007199254740992) = true ∧
      (max (int 9007199254740993)).accepts (.int 9007199254740992) = true := by
  have above : (float twoPow53).isAtMost (int 9007199254740993) = true := by decide +kernel
  have below : (int 9007199254740992).isAtMost (float twoPow53) = true := by decide +kernel
  have apart : ¬RoundTogether (int 9007199254740993) (float twoPow53) (int 9007199254740992) := by
    rintro ⟨lt, -, -⟩
    exact absurd lt (by decide)
  have above_accepted : (min (float twoPow53)).accepts (.int 9007199254740993) = true :=
    (accepts_min rfl _).trans above
  have below_accepted : (max (float twoPow53)).accepts (.int 9007199254740992) = true :=
    (accepts_max rfl _).trans below
  obtain ⟨composed, falling⟩ :=
    bounds_compose_iff (int 9007199254740993) (float twoPow53) (int 9007199254740992)
  obtain ⟨-, rising⟩ :=
    bounds_compose_iff (int 9007199254740992) (float twoPow53) (int 9007199254740993)
  exact ⟨⟨above, below, (composed above below).mpr apart⟩,
    ⟨above_accepted, ((falling (.int _) rfl).1 above_accepted below).mpr apart⟩,
    below_accepted, ((rising (.int _) rfl).2 below_accepted above).mpr apart⟩

/-- The integer `2 ^ 53` equals the double, which the next integer equals too. -/
theorem isAtMost_not_transitive :
    ¬∀ x y z : Numeric, x.isNaN = false → y.isNaN = false → z.isNaN = false →
      y.isAtMost x = true → z.isAtMost y = true → z.isAtMost x = true := by
  intro transitive
  have reversed := transitive (int 9007199254740992) (float twoPow53) (int 9007199254740993) rfl
    (by decide) rfl (by decide +kernel) (by decide +kernel)
  exact absurd reversed (by decide)

end Rule

end RequestParams
