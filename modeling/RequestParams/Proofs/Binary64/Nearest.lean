import Mathlib.Tactic.Common
import RequestParams.Proofs.Binary64.Finite

/-!
# Rounding keeps the order

In units of `2 ^ -1074` the values of doubles are numbers of at most fifty-three significant bits.
Rounding to so many bits leaves the values of doubles as they are and never reverses the order of
two numbers, and the double nearest to an integer has the rounded value.
-/

namespace RequestParams

theorem div_le_roundDiv (num den : Nat) : num / den ≤ roundDiv num den := by
  simp only [roundDiv]
  split <;> omega

theorem roundDiv_mul (quotient : Nat) {den : Nat} (den_pos : 0 < den) :
    roundDiv (quotient * den) den = quotient := by
  have below : ¬den < 0 := Nat.not_lt_zero den
  have untied : ¬0 = den := Nat.ne_of_lt den_pos
  simp [roundDiv, Nat.mul_div_cancel _ den_pos, below, untied]

theorem roundDiv_mono (den : Nat) {m n : Nat} (le : m ≤ n) : roundDiv m den ≤ roundDiv n den := by
  have quotient_le : m / den ≤ n / den := Nat.div_le_div_right le
  rcases Nat.lt_or_eq_of_le quotient_le with quotient_lt | quotient_eq
  · calc
      roundDiv m den ≤ m / den + 1 := roundDiv_le m den
      _ ≤ n / den := quotient_lt
      _ ≤ roundDiv n den := div_le_roundDiv n den
  · have remainder_le : m % den ≤ n % den := by
      have left := Nat.div_add_mod m den
      have right := Nat.div_add_mod n den
      rw [quotient_eq] at left
      omega
    simp only [roundDiv, quotient_eq, Bool.or_eq_true, Bool.and_eq_true, decide_eq_true_eq,
      beq_iff_eq]
    split_ifs <;> omega

namespace Binary64

/-! ## Fifty-three significant bits -/

/-- The distance of neighbouring doubles at a number of units. -/
def spacing (n : Nat) : Nat := Nat.pow 2 (n.log2 - 52)

/-- A number of units rounded to fifty-three significant bits. -/
def nearestUnits (n : Nat) : Nat := roundDiv n (spacing n) * spacing n

theorem spacing_pos (n : Nat) : 0 < spacing n := pow_two_pos _

theorem spacing_dvd_pow {n k : Nat} (le : n.log2 ≤ k + 52) : spacing n ∣ Nat.pow 2 k :=
  Nat.pow_dvd_pow 2 (by omega)

theorem nearestUnits_le {n bound : Nat} (multiple : spacing n ∣ bound) (le : n ≤ bound) :
    nearestUnits n ≤ bound := by
  obtain ⟨quotient, rfl⟩ := multiple
  rw [Nat.mul_comm] at le ⊢
  have rounded_le := roundDiv_mono (spacing n) le
  rw [roundDiv_mul quotient (spacing_pos n)] at rounded_le
  exact Nat.mul_le_mul_right _ rounded_le

theorem le_nearestUnits {n bound : Nat} (multiple : spacing n ∣ bound) (le : bound ≤ n) :
    bound ≤ nearestUnits n := by
  obtain ⟨quotient, rfl⟩ := multiple
  rw [Nat.mul_comm] at le ⊢
  have le_rounded := roundDiv_mono (spacing n) le
  rw [roundDiv_mul quotient (spacing_pos n)] at le_rounded
  exact Nat.mul_le_mul_right _ le_rounded

theorem nearestUnits_of_lt {significand k : Nat} (small : significand < Nat.pow 2 53) :
    nearestUnits (significand * Nat.pow 2 k) = significand * Nat.pow 2 k := by
  have log_le : (significand * Nat.pow 2 k).log2 ≤ k + 52 := by
    by_cases zero : significand * Nat.pow 2 k = 0
    · rw [zero]
      exact Nat.zero_le _
    · have product_lt := mul_pow_two_lt small (rfl : Nat.pow 2 k = Nat.pow 2 k)
      have log_lt := (Nat.log2_lt zero).mpr product_lt
      omega
  have multiple : spacing (significand * Nat.pow 2 k) ∣ significand * Nat.pow 2 k :=
    Nat.dvd_mul_left_of_dvd (spacing_dvd_pow log_le) significand
  exact Nat.le_antisymm (nearestUnits_le multiple (Nat.le_refl _))
    (le_nearestUnits multiple (Nat.le_refl _))

/-- A number of fifty-three significant bits stays as it is. -/
theorem nearestUnits_eq_self {significand k : Nat} (small : significand ≤ Nat.pow 2 53) :
    nearestUnits (significand * Nat.pow 2 k) = significand * Nat.pow 2 k := by
  rcases Nat.lt_or_eq_of_le small with below | rfl
  · exact nearestUnits_of_lt below
  · have shifted : Nat.pow 2 53 * Nat.pow 2 k = Nat.pow 2 52 * Nat.pow 2 (k + 1) := by
      rw [← pow_two_add, ← pow_two_add, Nat.add_comm k, ← Nat.add_assoc]
    rw [shifted]
    exact nearestUnits_of_lt (by decide)

theorem log2_mono {m n : Nat} (le : m ≤ n) : m.log2 ≤ n.log2 := by
  by_cases zero : m = 0
  · rw [zero]
    exact Nat.zero_le _
  · exact (Nat.le_log2 (by omega)).mpr (Nat.le_trans (Nat.log2_self_le zero) le)

theorem nearestUnits_mono {m n : Nat} (le : m ≤ n) : nearestUnits m ≤ nearestUnits n := by
  rcases Nat.lt_or_eq_of_le (log2_mono le) with log_lt | log_eq
  · -- The leading power of two of the larger number lies between the two and is a multiple of both
    -- spacings.
    have below : m ≤ Nat.pow 2 n.log2 :=
      calc
        m ≤ Nat.pow 2 (m.log2 + 1) := Nat.le_of_lt Nat.lt_log2_self
        _ ≤ Nat.pow 2 n.log2 := Nat.pow_le_pow_right (by decide) log_lt
    have above : Nat.pow 2 n.log2 ≤ n := Nat.log2_self_le (by rintro rfl; simp at log_lt)
    calc
      nearestUnits m ≤ Nat.pow 2 n.log2 := nearestUnits_le (spacing_dvd_pow (by omega)) below
      _ ≤ nearestUnits n := le_nearestUnits (spacing_dvd_pow (by omega)) above
  · rw [nearestUnits, nearestUnits, spacing, log_eq]
    exact Nat.mul_le_mul_right _ (roundDiv_mono _ le)

/-! ## Values of doubles -/

theorem significand_lt (x : Binary64) : x.significand < Nat.pow 2 53 := by
  have carry : Nat.pow 2 53 = Nat.pow 2 52 + Nat.pow 2 52 := rfl
  have fraction_lt : x.fractionField < Nat.pow 2 52 := Nat.mod_lt _ (pow_two_pos 52)
  rw [significand]
  split <;> omega

theorem nearestUnits_magnitude (x : Binary64) : nearestUnits x.magnitude = x.magnitude :=
  nearestUnits_of_lt x.significand_lt

theorem isNegative_ofFields (negative : Bool) {fields : Nat} (below : fields < infinityFields) :
    (ofFields negative fields).isNegative = negative := by
  have infinity_eq : infinityFields = 9218868437227405312 := rfl
  have sign_eq : Nat.pow 2 63 = 9223372036854775808 := rfl
  rw [infinity_eq] at below
  rw [isNegative, ofFields, UInt64.toNat_ofNat', sign_eq]
  cases negative <;> simp only [Bool.false_eq_true, if_false, if_true, decide_eq_true_eq,
    decide_eq_false_iff_not] <;> omega

theorem fields_ofFields (negative : Bool) {fields : Nat} (below : fields < infinityFields) :
    (ofFields negative fields).exponentField = fields / Nat.pow 2 52 ∧
      (ofFields negative fields).fractionField = fields % Nat.pow 2 52 := by
  have infinity_eq : infinityFields = 9218868437227405312 := rfl
  have sign_eq : Nat.pow 2 63 = 9223372036854775808 := rfl
  have fraction_eq : Nat.pow 2 52 = 4503599627370496 := rfl
  have exponent_eq : Nat.pow 2 11 = 2048 := rfl
  rw [infinity_eq] at below
  rw [exponentField, fractionField, ofFields, UInt64.toNat_ofNat', sign_eq, fraction_eq,
    exponent_eq]
  cases negative <;> simp only [Bool.false_eq_true, if_false, if_true] <;> omega

/-- A significand added to a multiple of the exponent's unit is the significand at that exponent,
also where it carries over into the next. -/
theorem magnitude_ofFields (negative : Bool) {scale significand : Nat}
    (below : scale * Nat.pow 2 52 + significand < infinityFields)
    (carry_le : significand ≤ Nat.pow 2 53) (normal : scale = 0 ∨ Nat.pow 2 52 ≤ significand) :
    (ofFields negative (scale * Nat.pow 2 52 + significand)).magnitude =
      significand * Nat.pow 2 scale := by
  obtain ⟨exponent_eq, fraction_eq⟩ := fields_ofFields negative below
  have double_eq : Nat.pow 2 53 = Nat.pow 2 52 + Nat.pow 2 52 := rfl
  have unit_pos : 0 < Nat.pow 2 52 := pow_two_pos 52
  rw [magnitude, Binary64.significand, Binary64.scale, exponent_eq, fraction_eq]
  generalize Nat.pow 2 52 = unit at *
  rw [Nat.mul_comm scale unit, Nat.mul_add_div unit_pos, Nat.mul_add_mod]
  by_cases subnormal : significand < unit
  · have scale_eq : scale = 0 := by omega
    rw [Nat.div_eq_of_lt subnormal, Nat.mod_eq_of_lt subnormal, scale_eq]
    rfl
  · obtain ⟨fraction, rfl⟩ := Nat.exists_eq_add_of_le (Nat.le_of_not_lt subnormal)
    rw [Nat.add_div_left _ unit_pos, Nat.add_mod_left]
    by_cases carry : fraction = unit
    · rw [carry, Nat.div_self unit_pos, Nat.mod_self, if_neg (by omega), ← Nat.two_mul unit,
        Nat.zero_add, Nat.mul_comm 2 unit, Nat.mul_assoc, Nat.mul_comm 2]
      rfl
    · have fraction_lt : fraction < unit := by omega
      rw [Nat.div_eq_of_lt fraction_lt, Nat.mod_eq_of_lt fraction_lt, if_neg (by omega),
        Nat.add_comm fraction]
      rfl

theorem roundDiv_spacing_le (n : Nat) : roundDiv n (spacing n) ≤ Nat.pow 2 53 :=
  Nat.le_trans (roundDiv_le _ _) (quotient_lt_of_scale n)

theorem pow_le_roundDiv_spacing {n : Nat} (normal : n.log2 - 52 ≠ 0) :
    Nat.pow 2 52 ≤ roundDiv n (spacing n) := by
  have leading_le : Nat.pow 2 52 * spacing n ≤ n := by
    rw [spacing, ← pow_two_add, show 52 + (n.log2 - 52) = n.log2 by omega]
    exact Nat.log2_self_le (by rintro rfl; simp at normal)
  exact Nat.le_trans ((Nat.le_div_iff_mul_le (spacing_pos n)).mpr leading_le)
    (div_le_roundDiv n _)

theorem fieldsOfUnits_lt {n k : Nat} (small : n < Nat.pow 2 k) (k_le : k ≤ 2097) :
    fieldsOfUnits n 1 < infinityFields := by
  have bits_le : Nat.pow 2 k ≤ Nat.pow 2 (k - 53 + 53) :=
    Nat.pow_le_pow_right (by decide) (by omega)
  have quotient_lt : n / 1 < Nat.pow 2 (k - 53 + 53) := by
    rw [Nat.div_one]
    exact Nat.lt_of_lt_of_le small bits_le
  calc
    fieldsOfUnits n 1 ≤ (k - 53 + 2) * Nat.pow 2 52 := fieldsOfUnits_le quotient_lt
    _ ≤ 2046 * Nat.pow 2 52 := Nat.mul_le_mul_right _ (by omega)
    _ < infinityFields := by decide

/-- Short of overflow a number of units is rounded to fifty-three significant bits. -/
theorem magnitude_fieldsOfUnits (negative : Bool) {n : Nat}
    (below : fieldsOfUnits n 1 < infinityFields) :
    (ofFields negative (fieldsOfUnits n 1)).magnitude = nearestUnits n := by
  have fields_eq : fieldsOfUnits n 1 =
      (n.log2 - 52) * Nat.pow 2 52 + roundDiv n (spacing n) := by
    simp only [fieldsOfUnits, Nat.div_one, Nat.one_mul] at below ⊢
    rw [spacing]
    omega
  rw [fields_eq] at below ⊢
  exact magnitude_ofFields negative below (roundDiv_spacing_le n)
    (or_iff_not_imp_left.mpr pow_le_roundDiv_spacing)

/-! ## Integers -/

/-- A number of units of either sign rounded to fifty-three significant bits. -/
def nearestSigned (u : Int) : Int := if u < 0 then -nearestUnits u.natAbs else nearestUnits u.natAbs

theorem nearestSigned_mono {u v : Int} (le : u ≤ v) : nearestSigned u ≤ nearestSigned v := by
  rw [nearestSigned, nearestSigned]
  split_ifs with u_neg v_neg v_neg
  · have magnitude_le := nearestUnits_mono (show v.natAbs ≤ u.natAbs by omega)
    omega
  · omega
  · omega
  · have magnitude_le := nearestUnits_mono (show u.natAbs ≤ v.natAbs by omega)
    omega

theorem nearestSigned_of_kept {u : Int} (kept : nearestUnits u.natAbs = u.natAbs) :
    nearestSigned u = u := by
  rw [nearestSigned, kept]
  split_ifs <;> omega

theorem nearestSigned_units (x : Binary64) : nearestSigned x.units = x.units := by
  have magnitude_eq : x.units.natAbs = x.magnitude := by
    rw [units]
    split_ifs <;> omega
  apply nearestSigned_of_kept
  rw [magnitude_eq, nearestUnits_magnitude]

/-- The exponent as a variable, so that no step computes the power. -/
theorem exists_unitsPerOne_eq : ∃ k, k = 1074 ∧ unitsPerOne = Nat.pow 2 k :=
  ⟨1074, rfl, unitsPerOne_eq⟩

theorem unitsPerOne_pos : 0 < unitsPerOne := by
  obtain ⟨k, -, unit_eq⟩ := exists_unitsPerOne_eq
  exact unit_eq ▸ pow_two_pos k

theorem natAbs_mul_unitsPerOne (n : Int) :
    (n * unitsPerOne).natAbs = n.natAbs * unitsPerOne := by
  rw [Int.natAbs_mul, Int.natAbs_natCast]

theorem mul_unitsPerOne_neg_iff (n : Int) : n * unitsPerOne < 0 ↔ n < 0 := by
  have units_pos : (0 : Int) < unitsPerOne := Int.natCast_pos.mpr unitsPerOne_pos
  constructor
  · intro product_neg
    by_contra nonneg
    have product_nonneg := Int.mul_nonneg (Int.not_lt.mp nonneg) (Int.le_of_lt units_pos)
    omega
  · intro neg
    exact Int.mul_neg_of_neg_of_pos neg units_pos

/-- An integer of at most `2 ^ 53` in absolute value is a double. -/
theorem nearestSigned_mul_unitsPerOne {n : Int} (small : n.natAbs ≤ Nat.pow 2 53) :
    nearestSigned (n * unitsPerOne) = n * unitsPerOne := by
  obtain ⟨k, -, unit_eq⟩ := exists_unitsPerOne_eq
  apply nearestSigned_of_kept
  rw [natAbs_mul_unitsPerOne, unit_eq]
  exact nearestUnits_eq_self small

theorem fieldsOfUnits_natAbs_lt {n : Int} (small : n.natAbs < Nat.pow 2 64) :
    fieldsOfUnits (n.natAbs * unitsPerOne) 1 < infinityFields :=
  fieldsOfUnits_lt (mul_pow_two_lt small unitsPerOne_eq) (by decide)

theorem isFinite_ofInt {n : Int} (small : n.natAbs < Nat.pow 2 64) : (ofInt n).isFinite = true :=
  isFinite_ofFields _ (fieldsOfUnits_natAbs_lt small)

/-- The double nearest to an integer has the rounded value. -/
theorem units_ofInt {n : Int} (small : n.natAbs < Nat.pow 2 64) :
    (ofInt n).units = nearestSigned (n * unitsPerOne) := by
  have below := fieldsOfUnits_natAbs_lt small
  have magnitude_eq : (ofInt n).magnitude = nearestUnits (n.natAbs * unitsPerOne) :=
    magnitude_fieldsOfUnits _ below
  have negative_eq : (ofInt n).isNegative = decide (n < 0) := isNegative_ofFields _ below
  rw [units, magnitude_eq, negative_eq, nearestSigned, natAbs_mul_unitsPerOne]
  simp only [mul_unitsPerOne_neg_iff, decide_eq_true_eq]

end Binary64

end RequestParams
