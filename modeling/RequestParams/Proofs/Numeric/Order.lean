import RequestParams.Numeric
import RequestParams.Proofs.Binary64.Exact

/-!
# The order of bounds

Two integers are compared as they are, and any other two numbers after rounding the integer among
them to a double. Rounding keeps the order, so the comparison never reverses it; but integers that
round to one double are equal to it and not to each other.
-/

namespace RequestParams.Numeric

open Binary64

/-- The exact value of a number, rational or infinite. A NaN has none. -/
def value? : Numeric → Option (WithBotTop ℚ)
  | int n => some ((n.toInt : ℚ) : WithBotTop ℚ)
  | float x => x.value?

/-- Not a number. -/
def isNaN : Numeric → Bool
  | int _ => false
  | float x => x.isNaN

/-- The value in units of `2 ^ -1074`. -/
def units : Numeric → Int
  | int n => n.toInt * unitsPerOne
  | float x => x.units

/-- The units under which a number is compared with another. -/
def unitsAgainst : Numeric → Numeric → Int
  | int n, int _ => (int n).units
  | a, _ => nearestSigned a.units

theorem natAbs_toInt_lt (n : Int64) : n.toInt.natAbs < Nat.pow 2 64 := by
  have below := n.toInt_lt
  have above := n.le_toInt
  have pow_eq : Nat.pow 2 64 = 18446744073709551616 := rfl
  omega

theorem isNaN_toBinary64 (a : Numeric) : a.toBinary64.isNaN = a.isNaN := by
  cases a with
  | float x => rfl
  | int n =>
      have finite := isFinite_ofInt (natAbs_toInt_lt n)
      have field_ne : (ofInt n.toInt).exponentField ≠ 2047 := by simpa [isFinite] using finite
      simp [toBinary64, isNaN, Binary64.isNaN, field_ne]

theorem units_toBinary64 (a : Numeric) : a.toBinary64.units = nearestSigned a.units := by
  cases a with
  | int n => exact units_ofInt (natAbs_toInt_lt n)
  | float x => exact (nearestSigned_units x).symm

theorem compare?_toBinary64 (a b : Numeric) :
    a.toBinary64.compare? b.toBinary64 = if a.isNaN || b.isNaN then none
      else some (cmp (nearestSigned a.units) (nearestSigned b.units)) := by
  rw [Binary64.compare?, isNaN_toBinary64, isNaN_toBinary64, units_toBinary64, units_toBinary64,
    cmp_eq_compare]

theorem cmp_units_int (m n : Int64) : cmp (int m).units (int n).units = cmp m.toInt n.toInt :=
  cmp_mul_pos_right (Int.natCast_pos.mpr unitsPerOne_pos) _ _

theorem units_int_le_iff (m n : Int64) : (int m).units ≤ (int n).units ↔ m.toInt ≤ n.toInt :=
  mul_le_mul_iff_of_pos_right (Int.natCast_pos.mpr unitsPerOne_pos)

/-- The comparison of two numbers is that of their units, rounded as soon as a double takes
part. -/
theorem compare?_eq (a b : Numeric) :
    a.compare? b = if a.isNaN || b.isNaN then none
      else some (cmp (a.unitsAgainst b) (b.unitsAgainst a)) := by
  match a, b with
  | int m, int n =>
      rw [unitsAgainst, unitsAgainst, cmp_units_int, cmp_eq_compare]
      rfl
  | int m, float y => exact compare?_toBinary64 (int m) (float y)
  | float x, int n => exact compare?_toBinary64 (float x) (int n)
  | float x, float y => exact compare?_toBinary64 (float x) (float y)

theorem equals_iff (x y : Binary64) :
    x.equals y = true ↔ (x.isNaN = false ∧ y.isNaN = false) ∧ x.units = y.units := by
  rw [equals, beq_iff_eq, Binary64.compare?, ← Bool.or_eq_false_iff]
  split_ifs with nan <;> simp [nan]

/-- An integer rounds to a double exactly if the double has its rounded value. -/
theorem ofInt_equals_iff (n : Int64) (x : Binary64) :
    (ofInt n.toInt).equals x = true ↔ x.isNaN = false ∧ nearestSigned (int n).units = x.units := by
  have not_nan : (ofInt n.toInt).isNaN = false := isNaN_toBinary64 (int n)
  have rounded : (ofInt n.toInt).units = nearestSigned (int n).units := units_toBinary64 (int n)
  rw [equals_iff, not_nan, rounded, and_iff_right rfl]

theorem compare?_swap (a b : Numeric) : b.compare? a = (a.compare? b).map Ordering.swap := by
  rw [compare?_eq, compare?_eq, Bool.or_comm]
  split_ifs
  · rfl
  · rw [Option.map_some, cmp_swap]

theorem compare?_eq_some_eq_iff (a b : Numeric) :
    a.compare? b = some .eq ↔
      (a.isNaN = false ∧ b.isNaN = false) ∧ a.unitsAgainst b = b.unitsAgainst a := by
  rw [compare?_eq, ← Bool.or_eq_false_iff]
  split_ifs with nan <;> simp [nan, cmp_eq_eq_iff]

theorem isAtMost_iff (bound n : Numeric) :
    bound.isAtMost n = true ↔
      (bound.isNaN = false ∧ n.isNaN = false) ∧ bound.unitsAgainst n ≤ n.unitsAgainst bound := by
  rw [isAtMost, compare?_eq, Bool.or_comm, ← Bool.or_eq_false_iff]
  split_ifs with nan <;> simp [nan, cmp_eq_lt_iff]

theorem isAtMost_int_iff (m n : Int64) : (int m).isAtMost (int n) = true ↔ m.toInt ≤ n.toInt := by
  rw [isAtMost_iff, ← units_int_le_iff]
  exact and_iff_right ⟨rfl, rfl⟩

/-- A bound is at least a number as the number is at most the bound. -/
theorem isAtLeast_eq_isAtMost (bound n : Numeric) : bound.isAtLeast n = n.isAtMost bound := by
  rw [isAtLeast, isAtMost, compare?_swap bound n]
  cases bound.compare? n with
  | none => rfl
  | some order => cases order <;> rfl

/-! ## Exact values -/

theorem value?_of_not_isNaN {a : Numeric} (not_nan : a.isNaN = false) :
    a.value? = some (valueOfUnits a.units) ∧ a.units ∈ unitRange := by
  cases a with
  | float x => exact Binary64.value?_of_not_isNaN not_nan
  | int n =>
      have small := natAbs_toInt_lt n
      have units_lt := natAbs_mul_unitsPerOne_lt small
      rw [value?, units, valueOfUnits_mul_unitsPerOne small]
      exact ⟨rfl, by omega, by omega⟩

theorem isNaN_of_value? {a : Numeric} {p : WithBotTop ℚ} (a_value : a.value? = some p) :
    a.isNaN = false := by
  cases a with
  | int n => rfl
  | float x =>
      have not_none : x.value? ≠ none := by simp [show x.value? = some p from a_value]
      rwa [ne_eq, value?_eq_none_iff, Bool.not_eq_true] at not_none

theorem valueOfUnits_of_value? {a : Numeric} {p : WithBotTop ℚ} (a_value : a.value? = some p) :
    valueOfUnits a.units = p ∧ a.units ∈ unitRange := by
  obtain ⟨value_eq, in_range⟩ := value?_of_not_isNaN (isNaN_of_value? a_value)
  exact ⟨Option.some.inj (value_eq.symm.trans a_value), in_range⟩

section Values

variable {a b : Numeric} {p q : WithBotTop ℚ} (a_value : a.value? = some p)
  (b_value : b.value? = some q)

include a_value b_value

/-- Exact values are ordered like the counts of units. -/
theorem cmp_value_eq_cmp_units : cmp p q = cmp a.units b.units := by
  obtain ⟨rfl, a_range⟩ := valueOfUnits_of_value? a_value
  obtain ⟨rfl, b_range⟩ := valueOfUnits_of_value? b_value
  exact valueOfUnits_strictMonoOn.cmp_map_eq a_range b_range

theorem value_le_iff_units_le : p ≤ q ↔ a.units ≤ b.units := by
  obtain ⟨rfl, a_range⟩ := valueOfUnits_of_value? a_value
  obtain ⟨rfl, b_range⟩ := valueOfUnits_of_value? b_value
  exact valueOfUnits_strictMonoOn.le_iff_le a_range b_range

theorem compare?_of_value? :
    a.compare? b = some (cmp (a.unitsAgainst b) (b.unitsAgainst a)) := by
  rw [compare?_eq, isNaN_of_value? a_value, isNaN_of_value? b_value]
  rfl

end Values

/-! ## Rounded and unrounded comparison -/

/-- Numbers that are compared without rounding: those of one kind, and an integer of at most
`2 ^ 53` in absolute value with a double. -/
def AreComparedExactly : Numeric → Numeric → Prop
  | int _, int _ | float _, float _ => True
  | int n, float _ | float _, int n => n.toInt.natAbs ≤ Nat.pow 2 53

/-- The double `2 ^ 53`, above which not every integer is a double. -/
def twoPow53 : Binary64 := ⟨0x4340000000000000⟩

theorem unitsAgainst_eq_units {a b : Numeric} (unrounded : AreComparedExactly a b) :
    a.unitsAgainst b = a.units ∧ b.unitsAgainst a = b.units := by
  match a, b with
  | int m, int n => exact ⟨rfl, rfl⟩
  | float x, float y => exact ⟨nearestSigned_units x, nearestSigned_units y⟩
  | int n, float x => exact ⟨nearestSigned_mul_unitsPerOne unrounded, nearestSigned_units x⟩
  | float x, int n => exact ⟨nearestSigned_units x, nearestSigned_mul_unitsPerOne unrounded⟩

theorem unitsAgainst_le {a b : Numeric} (le : a.units ≤ b.units) :
    a.unitsAgainst b ≤ b.unitsAgainst a := by
  match a, b with
  | int m, int n => exact le
  | int m, float y => exact nearestSigned_mono le
  | float x, int n => exact nearestSigned_mono le
  | float x, float y => exact nearestSigned_mono le

/-- A bound does not refuse a number that is exactly on its right side. -/
theorem isAtMost_of_value_le {a b : Numeric} {p q : WithBotTop ℚ} (a_value : a.value? = some p)
    (b_value : b.value? = some q) (le : p ≤ q) : a.isAtMost b = true := by
  have units_le := (value_le_iff_units_le a_value b_value).mp le
  exact (isAtMost_iff a b).mpr
    ⟨⟨isNaN_of_value? a_value, isNaN_of_value? b_value⟩, unitsAgainst_le units_le⟩

theorem nearestSigned_le_of_isAtMost {a b : Numeric} (le : a.isAtMost b = true) :
    nearestSigned a.units ≤ nearestSigned b.units := by
  obtain ⟨-, against_le⟩ := (isAtMost_iff a b).mp le
  match a, b with
  | int m, int n => exact nearestSigned_mono against_le
  | int m, float y => exact against_le
  | float x, int n => exact against_le
  | float x, float y => exact against_le

end RequestParams.Numeric
