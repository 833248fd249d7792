import Mathlib
import RequestParams.Proofs.Binary64.Exact

/-!
# Rounding of quotients

A quotient is rounded to the closest double, or to infinity where it is at least halfway from the
largest finite double to the next power of two. Both are read off the rounded significand, which is
an integer of at most fifty-three bits in units of the spacing of doubles at the quotient.
-/

namespace RequestParams

/-! ## The closest integer -/

theorem two_mul_roundDiv_le (num : Nat) {den : Nat} (den_pos : 0 < den) :
    2 * (roundDiv num den * den) ≤ 2 * num + den := by
  have split := Nat.div_add_mod' num den
  have remainder_lt := Nat.mod_lt num den_pos
  simp only [roundDiv, Bool.or_eq_true, Bool.and_eq_true, decide_eq_true_eq, beq_iff_eq]
  split_ifs
  · rw [Nat.add_mul, Nat.one_mul]
    omega
  · omega

theorem le_two_mul_roundDiv (num : Nat) {den : Nat} (den_pos : 0 < den) :
    2 * num ≤ 2 * (roundDiv num den * den) + den := by
  have split := Nat.div_add_mod' num den
  have remainder_lt := Nat.mod_lt num den_pos
  simp only [roundDiv, Bool.or_eq_true, Bool.and_eq_true, decide_eq_true_eq, beq_iff_eq]
  split_ifs
  · rw [Nat.add_mul, Nat.one_mul]
    omega
  · omega

/-- Different multiples are at least one apart. -/
theorem mul_add_le_of_lt {k l : Nat} (lt : k < l) (n : Nat) : k * n + n ≤ l * n := by
  rw [← Nat.succ_mul]
  exact Nat.mul_le_mul_right n lt

/-- No multiple of the denominator is closer to the numerator than the rounded one. -/
theorem roundDiv_closest (num : Nat) {den : Nat} (den_pos : 0 < den) (k : Nat) :
    ((roundDiv num den * den : Nat) - num : Int).natAbs ≤ ((k * den : Nat) - num : Int).natAbs := by
  have above := two_mul_roundDiv_le num den_pos
  have below := le_two_mul_roundDiv num den_pos
  rcases Nat.lt_trichotomy k (roundDiv num den) with lt | rfl | lt
  · have apart := mul_add_le_of_lt lt den
    omega
  · exact Nat.le_refl _
  · have apart := mul_add_le_of_lt lt den
    omega

/-- A quotient halfway above an odd integer is rounded up. -/
theorem roundDiv_le_iff_of_odd {num den q : Nat} (den_pos : 0 < den) (odd : q % 2 = 1) :
    roundDiv num den ≤ q ↔ 2 * num < (2 * q + 1) * den := by
  have split := Nat.div_add_mod' num den
  have remainder_lt := Nat.mod_lt num den_pos
  have half : (2 * q + 1) * den = 2 * (q * den) + den := by ring
  rw [half]
  rcases Nat.lt_trichotomy (num / den) q with lt | eq | gt
  · have product_le := mul_add_le_of_lt lt den
    have rounded_le := roundDiv_le num den
    omega
  · have product_eq : num / den * den = q * den := by rw [eq]
    simp only [roundDiv, eq, odd, Bool.or_eq_true, Bool.and_eq_true, decide_eq_true_eq, beq_iff_eq,
      and_true]
    split_ifs <;> omega
  · have product_le := mul_add_le_of_lt gt den
    have le_rounded := div_le_roundDiv num den
    omega

namespace Binary64

/-! ## The rounded significand -/

/-- The power of two that the spacing of doubles at a quotient of units is. -/
def scaleAt (num den : Nat) : Nat := (num / den).log2 - 52

/-- The significand of the double closest to a quotient of units, before a carry. -/
def significandAt (num den : Nat) : Nat := roundDiv num (den * Nat.pow 2 (scaleAt num den))

variable {num den : Nat}

theorem mul_pow_two_pos (den_pos : 0 < den) (k : Nat) : 0 < den * Nat.pow 2 k :=
  Nat.mul_pos den_pos (pow_two_pos k)

theorem significandAt_le (num den : Nat) : significandAt num den ≤ Nat.pow 2 53 := by
  have scaled := quotient_lt_of_scale (num / den)
  rw [Nat.div_div_eq_div_mul] at scaled
  exact (roundDiv_le _ _).trans scaled

/-- At a positive scale the quotient has at least fifty-three bits before the point. -/
theorem pow_mul_le_of_scaleAt_pos (normal : scaleAt num den ≠ 0) :
    Nat.pow 2 52 * (den * Nat.pow 2 (scaleAt num den)) ≤ num := by
  have leading_le : Nat.pow 2 (52 + scaleAt num den) ≤ num / den := by
    rw [scaleAt] at normal ⊢
    rw [show 52 + ((num / den).log2 - 52) = (num / den).log2 by omega]
    exact Nat.log2_self_le (by rintro zero; simp [zero] at normal)
  calc
    Nat.pow 2 52 * (den * Nat.pow 2 (scaleAt num den)) =
        den * Nat.pow 2 (52 + scaleAt num den) := by
      rw [pow_two_add]
      ring
    _ ≤ den * (num / den) := Nat.mul_le_mul_left den leading_le
    _ ≤ num := Nat.mul_div_le num den

theorem scaleAt_eq_zero_or (num : Nat) (den_pos : 0 < den) :
    scaleAt num den = 0 ∨ Nat.pow 2 52 ≤ significandAt num den := by
  refine or_iff_not_imp_left.mpr fun normal => ?_
  calc
    Nat.pow 2 52 ≤ num / (den * Nat.pow 2 (scaleAt num den)) :=
      (Nat.le_div_iff_mul_le (mul_pow_two_pos den_pos _)).mpr (pow_mul_le_of_scaleAt_pos normal)
    _ ≤ significandAt num den := div_le_roundDiv _ _

theorem fieldsOfUnits_eq (num den : Nat) :
    fieldsOfUnits num den =
      min (scaleAt num den * Nat.pow 2 52 + significandAt num den) infinityFields := rfl

/-- Short of overflow the double has the rounded significand at the scale of the quotient. -/
theorem magnitude_ofFields_fieldsOfUnits (negative : Bool) (den_pos : 0 < den)
    (below : fieldsOfUnits num den < infinityFields) :
    (ofFields negative (fieldsOfUnits num den)).magnitude =
      significandAt num den * Nat.pow 2 (scaleAt num den) := by
  have fields_eq : fieldsOfUnits num den =
      scaleAt num den * Nat.pow 2 52 + significandAt num den := by
    rw [fieldsOfUnits_eq] at below ⊢
    omega
  rw [fields_eq] at below ⊢
  exact magnitude_ofFields negative below (significandAt_le num den)
    (scaleAt_eq_zero_or num den_pos)

/-! ## The closest double -/

/-- No double is closer to a quotient of units. The doubles that are multiples of the spacing are
among the multiples that rounding chooses from, and the others lie below the binade of the quotient,
the bottom of which is such a multiple. -/
theorem magnitude_closest (den_pos : 0 < den) (y : Binary64) :
    ((significandAt num den * Nat.pow 2 (scaleAt num den) * den : Nat) - num : Int).natAbs ≤
      ((y.magnitude * den : Nat) - num : Int).natAbs := by
  have unit_pos := mul_pow_two_pos den_pos (scaleAt num den)
  have rounded_eq : significandAt num den * Nat.pow 2 (scaleAt num den) * den =
      significandAt num den * (den * Nat.pow 2 (scaleAt num den)) := by ring
  rw [rounded_eq]
  by_cases fine : scaleAt num den ≤ y.scale
  · obtain ⟨k, magnitude_eq⟩ : Nat.pow 2 (scaleAt num den) ∣ y.magnitude :=
      Nat.dvd_mul_left_of_dvd (Nat.pow_dvd_pow 2 fine) y.significand
    have multiple : y.magnitude * den = k * (den * Nat.pow 2 (scaleAt num den)) := by
      rw [magnitude_eq]
      ring
    rw [multiple]
    exact roundDiv_closest num unit_pos k
  · have normal : scaleAt num den ≠ 0 := by omega
    have bottom_le := pow_mul_le_of_scaleAt_pos normal
    have below : y.magnitude * den ≤ Nat.pow 2 52 * (den * Nat.pow 2 (scaleAt num den)) := by
      have magnitude_lt := magnitude_lt_of_scale_lt (Nat.lt_of_not_le fine)
      calc
        y.magnitude * den ≤ Nat.pow 2 52 * Nat.pow 2 (scaleAt num den) * den :=
          Nat.mul_le_mul_right den magnitude_lt.le
        _ = Nat.pow 2 52 * (den * Nat.pow 2 (scaleAt num den)) := by ring
    have closest := roundDiv_closest num unit_pos (Nat.pow 2 52)
    rw [significandAt]
    omega

/-! ## Overflow -/

theorem num_lt_of_scaleAt (num : Nat) (den_pos : 0 < den) :
    num < Nat.pow 2 53 * (den * Nat.pow 2 (scaleAt num den)) := by
  have quotient_lt : num / den < Nat.pow 2 (scaleAt num den + 53) :=
    calc
      num / den < Nat.pow 2 ((num / den).log2 + 1) := Nat.lt_log2_self
      _ ≤ Nat.pow 2 (scaleAt num den + 53) :=
        Nat.pow_le_pow_right (by decide) (by rw [scaleAt]; omega)
  calc
    num < Nat.pow 2 (scaleAt num den + 53) * den := (Nat.div_lt_iff_lt_mul den_pos).mp quotient_lt
    _ = Nat.pow 2 53 * (den * Nat.pow 2 (scaleAt num den)) := by
      rw [pow_two_add]
      ring

theorem mul_pow_two_le {k l : Nat} (den : Nat) (lt : k < l) :
    2 * (den * Nat.pow 2 k) ≤ den * Nat.pow 2 l :=
  calc
    2 * (den * Nat.pow 2 k) = den * Nat.pow 2 (k + 1) := by
      rw [pow_two_add, show Nat.pow 2 1 = 2 from rfl]
      ring
    _ ≤ den * Nat.pow 2 l := Nat.mul_le_mul_left den (Nat.pow_le_pow_right (by decide) lt)

/-- A quotient is rounded to infinity from the middle on between the largest significand at the
greatest scale and the next power of two. The scale is a variable, so that no step computes its
power. -/
theorem fieldsOfUnits_lt_iff_of_top {top : Nat} (top_eq : top = 2045) (den_pos : 0 < den) :
    fieldsOfUnits num den < infinityFields ↔
      2 * num < (2 * (Nat.pow 2 53 - 1) + 1) * (den * Nat.pow 2 top) := by
  have infinity_eq : infinityFields = (top + 2) * Nat.pow 2 52 := by
    rw [top_eq]
    rfl
  have carry_eq : Nat.pow 2 53 = 2 * Nat.pow 2 52 := rfl
  have odd : (Nat.pow 2 53 - 1) % 2 = 1 := rfl
  have unit_pos : 0 < Nat.pow 2 52 := pow_two_pos 52
  have significand_le := significandAt_le num den
  have fields_lt : fieldsOfUnits num den < infinityFields ↔
      scaleAt num den * Nat.pow 2 52 + significandAt num den < (top + 2) * Nat.pow 2 52 := by
    rw [fieldsOfUnits_eq, infinity_eq]
    omega
  rw [fields_lt, Nat.add_mul]
  rcases Nat.lt_trichotomy (scaleAt num den) top with lt | eq | gt
  · have num_lt := num_lt_of_scaleAt num den_pos
    have scaled := Nat.mul_le_mul_left (Nat.pow 2 53) (mul_pow_two_le den lt)
    have fields_le := mul_add_le_of_lt lt (Nat.pow 2 52)
    refine iff_of_true (by omega) ?_
    calc
      2 * num < 2 * (Nat.pow 2 53 * (den * Nat.pow 2 (scaleAt num den))) := by omega
      _ = Nat.pow 2 53 * (2 * (den * Nat.pow 2 (scaleAt num den))) := Nat.mul_left_comm _ _ _
      _ ≤ Nat.pow 2 53 * (den * Nat.pow 2 top) := scaled
      _ ≤ (2 * (Nat.pow 2 53 - 1) + 1) * (den * Nat.pow 2 top) :=
        Nat.mul_le_mul_right _ (by omega)
  · rw [← eq, ← roundDiv_le_iff_of_odd (mul_pow_two_pos den_pos _) odd, ← significandAt]
    omega
  · have scaled_up : scaleAt num den ≠ 0 := by omega
    have le_num := pow_mul_le_of_scaleAt_pos scaled_up
    have scaled := Nat.mul_le_mul_left (Nat.pow 2 52) (mul_pow_two_le den gt)
    have le_fields := mul_add_le_of_lt gt (Nat.pow 2 52)
    have normal := (scaleAt_eq_zero_or num den_pos).resolve_left scaled_up
    refine iff_of_false (by omega) (Nat.not_lt.mpr ?_)
    calc
      (2 * (Nat.pow 2 53 - 1) + 1) * (den * Nat.pow 2 top) ≤
          2 * Nat.pow 2 53 * (den * Nat.pow 2 top) := Nat.mul_le_mul_right _ (by omega)
      _ = 2 * (Nat.pow 2 52 * (2 * (den * Nat.pow 2 top))) := by
        rw [carry_eq]
        ring
      _ ≤ 2 * num := Nat.mul_le_mul_left 2 (scaled.trans le_num)

/-- Fields of infinity are those of no finite double. -/
theorem isFinite_ofFields_iff (negative : Bool) {fields : Nat} (le : fields ≤ infinityFields) :
    (ofFields negative fields).isFinite = true ↔ fields < infinityFields := by
  constructor
  · intro finite
    refine Nat.lt_of_le_of_ne le ?_
    rintro rfl
    cases negative <;> cases finite
  · exact isFinite_ofFields negative

end Binary64

end RequestParams
