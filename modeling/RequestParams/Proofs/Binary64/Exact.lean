import Mathlib
import RequestParams.Proofs.Binary64.Nearest

/-!
# Exact values

A double that is not a NaN denotes a rational number or one of the infinities. Counts of
`2 ^ -1074` are ordered like the values that they stand for, so that comparing doubles is comparing
exact values.
-/

namespace RequestParams.Binary64

/-- The exact value of a double, a rational number or an infinity. A NaN has none. -/
def value? (x : Binary64) : Option (WithBotTop ℚ) :=
  if x.isNaN then none
  else if x.isFinite then some ((x.units / unitsPerOne : ℚ) : WithBotTop ℚ)
  else some (if x.isNegative then ⊥ else ⊤)

/-! ## Counts of units -/

/-- The magnitude of the infinities. -/
def infinityUnits : Nat := Nat.pow 2 52 * Nat.pow 2 2046

/-- The value of a count of units. -/
def valueOfUnits (u : Int) : WithBotTop ℚ :=
  if infinityUnits ≤ u then ⊤
  else if u ≤ -infinityUnits then ⊥
  else ((u / unitsPerOne : ℚ) : WithBotTop ℚ)

/-- The counts of units that numbers have. -/
def unitRange : Set Int := Set.Icc (-infinityUnits) infinityUnits

theorem valueOfUnits_of_lt {u : Int} (above : -infinityUnits < u) (below : u < infinityUnits) :
    valueOfUnits u = ((u / unitsPerOne : ℚ) : WithBotTop ℚ) := by
  rw [valueOfUnits, if_neg (not_le.mpr below), if_neg (not_le.mpr above)]

theorem valueOfUnits_infinityUnits : valueOfUnits infinityUnits = ⊤ := if_pos le_rfl

/-- The exponent as a variable, so that no step computes the power. -/
theorem exists_infinityUnits_eq : ∃ k, k = 2046 ∧ infinityUnits = Nat.pow 2 52 * Nat.pow 2 k :=
  ⟨2046, rfl, by rw [infinityUnits]⟩

theorem infinityUnits_pos : 0 < infinityUnits := by
  obtain ⟨k, -, infinity_eq⟩ := exists_infinityUnits_eq
  exact infinity_eq ▸ Nat.mul_pos (pow_two_pos 52) (pow_two_pos k)

theorem valueOfUnits_neg_infinityUnits : valueOfUnits (-infinityUnits) = ⊥ := by
  have infinity_pos := infinityUnits_pos
  rw [valueOfUnits, if_neg (by omega), if_pos le_rfl]

/-- Numbers are ordered like their counts of units. -/
theorem valueOfUnits_strictMonoOn : StrictMonoOn valueOfUnits unitRange := by
  rintro u ⟨u_ge, -⟩ v ⟨-, v_le⟩ lt
  rcases u_ge.eq_or_lt with rfl | above <;> rcases v_le.eq_or_lt with rfl | below
  · rw [valueOfUnits_neg_infinityUnits, valueOfUnits_infinityUnits]
    exact bot_lt_top
  · rw [valueOfUnits_neg_infinityUnits, valueOfUnits_of_lt lt below]
    exact WithBot.bot_lt_coe _
  · rw [valueOfUnits_of_lt above lt, valueOfUnits_infinityUnits]
    exact WithBot.coe_lt_coe.mpr (WithTop.coe_lt_top _)
  · rw [valueOfUnits_of_lt above (lt.trans below), valueOfUnits_of_lt (above.trans lt) below,
      WithBotTop.coe_lt_coe]
    exact div_lt_div_of_pos_right (Int.cast_lt.mpr lt) (Nat.cast_pos.mpr unitsPerOne_pos)

theorem natAbs_mul_unitsPerOne_lt {n : Int} (small : n.natAbs < Nat.pow 2 64) :
    (n * unitsPerOne).natAbs < infinityUnits := by
  obtain ⟨k, k_eq, infinity_eq⟩ := exists_infinityUnits_eq
  obtain ⟨l, l_eq, unit_eq⟩ := exists_unitsPerOne_eq
  rw [natAbs_mul_unitsPerOne, infinity_eq, ← pow_two_add]
  exact Nat.lt_of_lt_of_le (mul_pow_two_lt small unit_eq)
    (Nat.pow_le_pow_right (by decide) (by omega))

theorem valueOfUnits_mul_unitsPerOne {n : Int} (small : n.natAbs < Nat.pow 2 64) :
    valueOfUnits (n * unitsPerOne) = ((n : ℚ) : WithBotTop ℚ) := by
  have units_lt := natAbs_mul_unitsPerOne_lt small
  have one_ne : (unitsPerOne : ℚ) ≠ 0 := Nat.cast_ne_zero.mpr unitsPerOne_pos.ne'
  rw [valueOfUnits_of_lt (by omega) (by omega), Int.cast_mul, Int.cast_natCast,
    mul_div_cancel_right₀ _ one_ne]

/-! ## Doubles -/

theorem magnitude_lt_of_scale_lt {x : Binary64} {k : Nat} (scale_lt : x.scale < k) :
    x.magnitude < Nat.pow 2 52 * Nat.pow 2 k :=
  calc
    x.magnitude < Nat.pow 2 53 * Nat.pow 2 x.scale :=
      Nat.mul_lt_mul_of_pos_right x.significand_lt (pow_two_pos _)
    _ = Nat.pow 2 52 * Nat.pow 2 (x.scale + 1) := by
      rw [← pow_two_add, ← pow_two_add, Nat.add_comm x.scale, ← Nat.add_assoc]
    _ ≤ Nat.pow 2 52 * Nat.pow 2 k :=
      Nat.mul_le_mul_left _ (Nat.pow_le_pow_right (by decide) scale_lt)

theorem magnitude_lt_of_isFinite {x : Binary64} (finite : x.isFinite = true) :
    x.magnitude < infinityUnits := by
  have field_lt : x.exponentField < 2048 := Nat.mod_lt _ (by decide)
  have field_ne : x.exponentField ≠ 2047 := by simpa [isFinite] using finite
  obtain ⟨k, k_eq, infinity_eq⟩ := exists_infinityUnits_eq
  exact infinity_eq ▸ magnitude_lt_of_scale_lt (by rw [scale]; omega)

theorem magnitude_of_infinite {x : Binary64} (not_nan : x.isNaN = false)
    (infinite : x.isFinite = false) : x.magnitude = infinityUnits := by
  have field_eq : x.exponentField = 2047 := by simpa [isFinite] using infinite
  have fraction_eq : x.fractionField = 0 := by simpa [isNaN, field_eq] using not_nan
  obtain ⟨k, k_eq, infinity_eq⟩ := exists_infinityUnits_eq
  have scale_eq : x.scale = k := by rw [scale, field_eq, k_eq]
  have significand_eq : x.significand = Nat.pow 2 52 := by
    rw [significand, field_eq, fraction_eq, if_neg (by decide), Nat.zero_add]
  rw [magnitude, significand_eq, scale_eq, infinity_eq]

theorem value?_eq_none_iff (x : Binary64) : x.value? = none ↔ x.isNaN = true := by
  rw [value?]
  split_ifs with nan <;> simp [nan]

/-- The value of a double is that of its count of units. -/
theorem value?_of_not_isNaN {x : Binary64} (not_nan : x.isNaN = false) :
    x.value? = some (valueOfUnits x.units) ∧ x.units ∈ unitRange := by
  rw [value?, not_nan, if_neg Bool.false_ne_true]
  cases finite : x.isFinite with
  | true =>
      have magnitude_lt := magnitude_lt_of_isFinite finite
      have above : -infinityUnits < x.units := by
        rw [units]
        split_ifs <;> omega
      have below : x.units < infinityUnits := by
        rw [units]
        split_ifs <;> omega
      rw [if_pos rfl, valueOfUnits_of_lt above below]
      exact ⟨rfl, above.le, below.le⟩
  | false =>
      have magnitude_eq := magnitude_of_infinite not_nan finite
      rw [if_neg Bool.false_ne_true, units, magnitude_eq]
      split_ifs
      · rw [valueOfUnits_neg_infinityUnits]
        exact ⟨rfl, le_rfl, by omega⟩
      · rw [valueOfUnits_infinityUnits]
        exact ⟨rfl, by omega, le_rfl⟩

end RequestParams.Binary64
