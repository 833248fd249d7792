import RequestParams.Binary64.Rounding

/-!
# Rounding without overflow

The fields of a rounded quotient grow with the length of the quotient: a quotient of `k + 53` bits
has fields of at most `k + 2` times `2 ^ 52`, a carry out of the significand included. Hence a
natural number of at most 1023 bits is rounded to a finite double.
-/

namespace RequestParams

theorem roundDiv_le (num den : Nat) : roundDiv num den ≤ num / den + 1 := by
  simp only [roundDiv]
  split <;> omega

namespace Binary64

/-- Fields below those of infinity are those of a finite double of either sign. -/
theorem isFinite_ofFields (negative : Bool) {fields : Nat} (below : fields < infinityFields) :
    (ofFields negative fields).isFinite = true := by
  have infinity_eq : infinityFields = 9218868437227405312 := rfl
  have sign_eq : Nat.pow 2 63 = 9223372036854775808 := rfl
  have fraction_eq : Nat.pow 2 52 = 4503599627370496 := rfl
  have exponent_eq : Nat.pow 2 11 = 2048 := rfl
  rw [infinity_eq] at below
  have field_ne : (ofFields negative fields).exponentField ≠ 2047 := by
    rw [exponentField, ofFields, UInt64.toNat_ofNat', sign_eq, fraction_eq, exponent_eq]
    cases negative <;> simp only [Bool.false_eq_true, if_false, if_true] <;> omega
  simpa [isFinite] using field_ne

theorem pow_two_pos (k : Nat) : 0 < Nat.pow 2 k := Nat.two_pow_pos k

theorem pow_two_add (k l : Nat) : Nat.pow 2 (k + l) = Nat.pow 2 k * Nat.pow 2 l := Nat.pow_add 2 k l

/-- The scale of a quotient leaves at most fifty-three bits of it. -/
theorem quotient_lt_of_scale (quotient : Nat) :
    quotient / Nat.pow 2 (quotient.log2 - 52) < Nat.pow 2 53 := by
  have bits : quotient < Nat.pow 2 (quotient.log2 + 1) := Nat.lt_log2_self
  have monotone : Nat.pow 2 (quotient.log2 + 1) ≤ Nat.pow 2 (quotient.log2 - 52 + 53) :=
    Nat.pow_le_pow_right (by decide) (by omega)
  rw [Nat.div_lt_iff_lt_mul (pow_two_pos _), Nat.mul_comm, ← pow_two_add]
  exact Nat.lt_of_lt_of_le bits monotone

/-- The fields of a quotient of `k + 53` bits, with a carry out of the significand. -/
theorem fieldsOfUnits_le {num den k : Nat} (small : num / den < Nat.pow 2 (k + 53)) :
    fieldsOfUnits num den ≤ (k + 2) * Nat.pow 2 52 := by
  have scale_le : (num / den).log2 - 52 ≤ k := by
    by_cases zero : num / den = 0
    · rw [zero]
      exact Nat.zero_le k
    · have bits : (num / den).log2 < k + 53 := (Nat.log2_lt zero).mpr small
      omega
  have scaled := quotient_lt_of_scale (num / den)
  rw [Nat.div_div_eq_div_mul] at scaled
  have carry : Nat.pow 2 53 = 2 * Nat.pow 2 52 := rfl
  have significand_le : roundDiv num (den * Nat.pow 2 ((num / den).log2 - 52)) ≤
      2 * Nat.pow 2 52 := carry ▸ Nat.le_trans (roundDiv_le _ _) scaled
  calc
    fieldsOfUnits num den ≤ ((num / den).log2 - 52) * Nat.pow 2 52 +
        roundDiv num (den * Nat.pow 2 ((num / den).log2 - 52)) := Nat.min_le_left _ _
    _ ≤ k * Nat.pow 2 52 + 2 * Nat.pow 2 52 :=
      Nat.add_le_add (Nat.mul_le_mul_right _ scale_le) significand_le
    _ = (k + 2) * Nat.pow 2 52 := (Nat.add_mul k 2 (Nat.pow 2 52)).symm

theorem unitsPerOne_eq : unitsPerOne = Nat.pow 2 1074 := by
  unfold unitsPerOne
  rfl

theorem mul_pow_two_lt {n k unit l : Nat} (small : n < Nat.pow 2 k) (unit_eq : unit = Nat.pow 2 l) :
    n * unit < Nat.pow 2 (k + l) := by
  rw [pow_two_add, unit_eq]
  exact Nat.mul_lt_mul_of_pos_right small (pow_two_pos l)

/-- A natural number of at most 1023 bits does not overflow. -/
theorem isFinite_ofNat {n k : Nat} (small : n < Nat.pow 2 k) (k_le : k ≤ 1023) :
    (ofNat n).isFinite = true := by
  have product_lt := mul_pow_two_lt small unitsPerOne_eq
  have units_lt : n * unitsPerOne / 1 < Nat.pow 2 (k + 1021 + 53) := by
    rw [Nat.div_one]
    exact product_lt
  apply isFinite_ofFields
  calc
    fieldsOfUnits (n * unitsPerOne) 1 ≤ (k + 1021 + 2) * Nat.pow 2 52 := fieldsOfUnits_le units_lt
    _ ≤ 2046 * Nat.pow 2 52 := Nat.mul_le_mul_right _ (by omega)
    _ < infinityFields := by decide

end Binary64

end RequestParams
