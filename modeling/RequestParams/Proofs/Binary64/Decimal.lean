import RequestParams.Proofs.Binary64.Ratio

/-!
# Rounding of decimals

A decimal is rounded to a double such that no other double is closer. It overflows exactly from the
middle on between the largest finite double and the next power of two, and never on the other side:
a decimal close to zero is rounded to zero.
-/

namespace RequestParams.Binary64

/-! ## Values of finite doubles -/

/-- The number with the given sign. -/
def withSign (negative : Bool) (q : ℚ) : ℚ := if negative then -q else q

theorem abs_withSign (negative : Bool) (q : ℚ) : |withSign negative q| = |q| := by
  cases negative
  · rfl
  · exact abs_neg q

theorem withSign_sub (negative : Bool) (p q : ℚ) :
    withSign negative p - withSign negative q = withSign negative (p - q) := by
  cases negative
  · rfl
  · exact (neg_sub_neg p q).trans (neg_sub p q).symm

theorem natCast_div_nonneg (m n : Nat) : (0 : ℚ) ≤ m / n :=
  div_nonneg (Nat.cast_nonneg m) (Nat.cast_nonneg n)

theorem natCast_pow (base exponent : Nat) : ((Nat.pow base exponent : Nat) : ℚ) = base ^ exponent :=
  Nat.cast_pow base exponent

theorem isNaN_of_isFinite {x : Binary64} (finite : x.isFinite = true) : x.isNaN = false := by
  have field_ne : x.exponentField ≠ 2047 := by simpa [isFinite] using finite
  simp [isNaN, field_ne]

/-- The value of a finite double is its magnitude with its sign. -/
theorem value?_eq_some_coe_iff (x : Binary64) (v : ℚ) :
    x.value? = some (v : WithBotTop ℚ) ↔
      x.isFinite = true ∧ withSign x.isNegative (x.magnitude / unitsPerOne) = v := by
  have units_eq : (x.units / unitsPerOne : ℚ) =
      withSign x.isNegative (x.magnitude / unitsPerOne) := by
    rw [units, withSign]
    split_ifs
    · rw [Int.cast_neg, neg_div, Int.cast_natCast]
    · rw [Int.cast_natCast]
  rw [value?, units_eq]
  by_cases finite : x.isFinite = true
  · rw [isNaN_of_isFinite finite, if_neg Bool.false_ne_true, if_pos finite, Option.some.injEq,
      WithBotTop.coe_injective.eq_iff]
    exact (and_iff_right finite).symm
  · rw [if_neg finite]
    refine iff_of_false (fun value_eq => ?_) fun finite_and => finite finite_and.1
    split_ifs at value_eq
    · exact WithBotTop.coe_ne_bot v (Option.some.inj value_eq).symm
    · exact WithBotTop.coe_ne_top v (Option.some.inj value_eq).symm

/-! ## The closest double -/

/-- The value of the double is such that no double is closer to the number. -/
def IsNearest (x : Binary64) (q : ℚ) : Prop :=
  ∃ v : ℚ, x.value? = some (v : WithBotTop ℚ) ∧
    ∀ (y : Binary64) (w : ℚ), y.value? = some (w : WithBotTop ℚ) → |v - q| ≤ |w - q|

/-- The distance of a count of units from a quotient is a quotient of integers. -/
theorem abs_units_sub_ratio (m num : Nat) {den : Nat} (den_pos : 0 < den) :
    |(m / unitsPerOne - num / den : ℚ)| =
      ((m * den : Nat) - (num * unitsPerOne : Nat) : Int).natAbs / (unitsPerOne * den) := by
  have one_pos : (0 : ℚ) < unitsPerOne := Nat.cast_pos.mpr unitsPerOne_pos
  have den_pos : (0 : ℚ) < den := Nat.cast_pos.mpr den_pos
  rw [div_sub_div _ _ one_pos.ne' den_pos.ne', abs_div, abs_of_pos (mul_pos one_pos den_pos),
    Nat.cast_natAbs]
  push_cast
  rw [mul_comm (num : ℚ)]

theorem isNegative_ofRatio {negative : Bool} {num den : Nat}
    (below : fieldsOfUnits (num * unitsPerOne) den < infinityFields) :
    (ofRatio negative num den).isNegative = negative :=
  isNegative_ofFields negative below

/-- Short of overflow a quotient is rounded to the closest double. -/
theorem isNearest_ofRatio (negative : Bool) {num den : Nat} (den_pos : 0 < den)
    (below : fieldsOfUnits (num * unitsPerOne) den < infinityFields) :
    (ofRatio negative num den).IsNearest (withSign negative (num / den)) := by
  have finite : (ofRatio negative num den).isFinite = true := isFinite_ofFields negative below
  have magnitude_eq := magnitude_ofFields_fieldsOfUnits negative den_pos below
  refine ⟨_, (value?_eq_some_coe_iff _ _).mpr ⟨finite, rfl⟩, ?_⟩
  intro y w value_eq
  obtain ⟨-, rfl⟩ := (value?_eq_some_coe_iff y w).mp value_eq
  rw [isNegative_ofRatio below, withSign_sub, abs_withSign]
  calc
    |((ofRatio negative num den).magnitude / unitsPerOne - num / den : ℚ)| ≤
        |(y.magnitude / unitsPerOne - num / den : ℚ)| := by
      rw [abs_units_sub_ratio _ _ den_pos, abs_units_sub_ratio _ _ den_pos, ofRatio, magnitude_eq]
      refine div_le_div_of_nonneg_right (Nat.cast_le.mpr (magnitude_closest den_pos y)) ?_
      exact mul_nonneg (Nat.cast_nonneg _) (Nat.cast_nonneg _)
    _ = |(|withSign y.isNegative (y.magnitude / unitsPerOne)| -
          |withSign negative (num / den)| : ℚ)| := by
      rw [abs_withSign, abs_withSign, abs_of_nonneg (natCast_div_nonneg y.magnitude _),
        abs_of_nonneg (natCast_div_nonneg num den)]
    _ ≤ |withSign y.isNegative (y.magnitude / unitsPerOne) - withSign negative (num / den)| :=
      abs_abs_sub_abs_le _ _

/-! ## Overflow -/

/-- The value of the largest finite double. -/
def largestFinite : ℚ := (2 ^ 53 - 1) * 2 ^ 971

/-- The largest finite double in units of `2 ^ -1074`, with the scale as a variable. -/
theorem largestFinite_mul_unitsPerOne {top : Nat} (top_eq : top = 2045) :
    largestFinite * unitsPerOne = ((Nat.pow 2 53 - 1) * Nat.pow 2 top : Nat) := by
  obtain ⟨l, l_eq, unit_eq⟩ := exists_unitsPerOne_eq
  have top_split : top = 971 + l := by omega
  rw [largestFinite, unit_eq, top_split, Nat.cast_mul, natCast_pow, natCast_pow, pow_add, mul_assoc]
  generalize (2 : ℚ) ^ 971 = unit
  norm_num

theorem isGreatest_largestFinite :
    IsGreatest {v : ℚ | ∃ x : Binary64, x.value? = some (v : WithBotTop ℚ)} largestFinite := by
  obtain ⟨top, top_eq⟩ : ∃ top, top = 2045 := ⟨2045, rfl⟩
  have largest_eq := largestFinite_mul_unitsPerOne top_eq
  have one_pos : (0 : ℚ) < unitsPerOne := Nat.cast_pos.mpr unitsPerOne_pos
  constructor
  · have fields_lt : top * Nat.pow 2 52 + (Nat.pow 2 53 - 1) < infinityFields := by
      rw [top_eq]
      decide
    have magnitude_eq := magnitude_ofFields false fields_lt (Nat.sub_le _ _) (.inr (by decide))
    refine ⟨_, (value?_eq_some_coe_iff _ _).mpr ⟨isFinite_ofFields false fields_lt, ?_⟩⟩
    rw [isNegative_ofFields false fields_lt, magnitude_eq, ← largest_eq]
    exact mul_div_cancel_right₀ _ one_pos.ne'
  · rintro v ⟨x, value_eq⟩
    obtain ⟨finite, rfl⟩ := (value?_eq_some_coe_iff x v).mp value_eq
    have field_ne : x.exponentField ≠ 2047 := by simpa [isFinite] using finite
    have field_lt : x.exponentField < 2048 := Nat.mod_lt _ (by decide)
    have scale_le : x.scale ≤ top := by
      rw [scale]
      omega
    have magnitude_le : x.magnitude ≤ (Nat.pow 2 53 - 1) * Nat.pow 2 top :=
      Nat.mul_le_mul (Nat.le_sub_one_of_lt x.significand_lt)
        (Nat.pow_le_pow_right (by decide) scale_le)
    calc
      withSign x.isNegative (x.magnitude / unitsPerOne) ≤ |(x.magnitude / unitsPerOne : ℚ)| :=
        (le_abs_self _).trans_eq (abs_withSign _ _)
      _ = x.magnitude / unitsPerOne := abs_of_nonneg (natCast_div_nonneg _ _)
      _ ≤ largestFinite := by
        rw [div_le_iff₀ one_pos, largest_eq]
        exact Nat.cast_le.mpr magnitude_le

/-- Whether the number is closer to the largest finite double than to the power of two after it, or
does not reach so far. -/
def RoundsToFinite (q : ℚ) : Prop := 2 * |q| < largestFinite + 2 ^ 1024

theorem roundsToFinite_withSign (negative : Bool) (q : ℚ) :
    RoundsToFinite (withSign negative q) ↔ RoundsToFinite q := by
  rw [RoundsToFinite, RoundsToFinite, abs_withSign]

theorem pow_two_next_eq : (2 : ℚ) ^ 1024 = 2 ^ 53 * 2 ^ 971 := by rw [← pow_add]

theorem largestFinite_le : largestFinite ≤ 2 ^ 1024 := by
  rw [largestFinite, pow_two_next_eq]
  exact mul_le_mul_of_nonneg_right (sub_le_self _ zero_le_one) (by positivity)

/-- The exponent as a variable, so that no step computes the power. -/
theorem exists_overflow_eq : ∃ k, k = 971 ∧
    largestFinite + 2 ^ 1024 = (2 * (2 ^ 53 - 1) + 1) * 2 ^ k := by
  refine ⟨971, rfl, ?_⟩
  rw [pow_two_next_eq, largestFinite]
  generalize (2 : ℚ) ^ 971 = unit
  ring

theorem isFinite_ofRatio_iff (negative : Bool) (num den : Nat) :
    (ofRatio negative num den).isFinite = true ↔
      fieldsOfUnits (num * unitsPerOne) den < infinityFields :=
  isFinite_ofFields_iff negative (Nat.min_le_right _ _)

/-- Rounding to a finite double is rounding below the middle between the largest finite double and
the next power of two. -/
theorem fieldsOfUnits_lt_iff_roundsToFinite (num : Nat) {den : Nat} (den_pos : 0 < den) :
    fieldsOfUnits (num * unitsPerOne) den < infinityFields ↔ RoundsToFinite (num / den) := by
  obtain ⟨k, k_eq, bound_eq⟩ := exists_overflow_eq
  obtain ⟨l, l_eq, unit_eq⟩ := exists_unitsPerOne_eq
  have top_eq : k + l = 2045 := by omega
  have den_cast_pos : (0 : ℚ) < den := Nat.cast_pos.mpr den_pos
  have two_pow_pos : 0 < Nat.pow 2 l := pow_two_pos l
  rw [fieldsOfUnits_lt_iff_of_top top_eq den_pos, RoundsToFinite, bound_eq, unit_eq, pow_two_add,
    abs_of_nonneg (natCast_div_nonneg num den), ← mul_div_assoc, div_lt_iff₀ den_cast_pos]
  have left_eq : 2 * (num * Nat.pow 2 l) = 2 * num * Nat.pow 2 l := (Nat.mul_assoc _ _ _).symm
  have right_eq : (2 * (Nat.pow 2 53 - 1) + 1) * (den * (Nat.pow 2 k * Nat.pow 2 l)) =
      (2 * (Nat.pow 2 53 - 1) + 1) * Nat.pow 2 k * den * Nat.pow 2 l := by ring
  have bound_cast : (((2 * (Nat.pow 2 53 - 1) + 1) * Nat.pow 2 k * den : Nat) : ℚ) =
      (2 * (2 ^ 53 - 1) + 1) * 2 ^ k * den := by
    rw [Nat.cast_mul, Nat.cast_mul, natCast_pow]
    norm_num
  have double_cast : ((2 * num : Nat) : ℚ) = 2 * num := Nat.cast_mul 2 num
  rw [left_eq, right_eq, Nat.mul_lt_mul_right two_pow_pos, ← bound_cast, ← double_cast, Nat.cast_lt]

/-! ## Decimals -/

/-- A decimal is rounded as a quotient of natural numbers. -/
theorem exists_ofDecimal_eq_ofRatio (negative : Bool) (significand : Nat) (exponent : Int) :
    ∃ num den, 0 < den ∧ ofDecimal negative significand exponent = ofRatio negative num den ∧
      (significand * 10 ^ exponent : ℚ) = num / den := by
  cases exponent with
  | ofNat e =>
      refine ⟨significand * Nat.pow 10 e, 1, Nat.one_pos, rfl, ?_⟩
      rw [Nat.cast_one, div_one, Nat.cast_mul, natCast_pow, Int.ofNat_eq_natCast, zpow_natCast,
        Nat.cast_ofNat]
  | negSucc e =>
      refine ⟨significand, Nat.pow 10 (e + 1), Nat.pow_pos (by decide), rfl, ?_⟩
      rw [zpow_negSucc, natCast_pow, Nat.cast_ofNat, div_eq_mul_inv]

variable (negative : Bool) (significand : Nat) (exponent : Int)

/-- Of decimals, exactly those short of the middle between the largest finite double and the next
power of two are rounded to a finite double. -/
theorem isFinite_ofDecimal_iff :
    (ofDecimal negative significand exponent).isFinite = true ↔
      RoundsToFinite (withSign negative (significand * 10 ^ exponent)) := by
  obtain ⟨num, den, den_pos, double_eq, value_eq⟩ :=
    exists_ofDecimal_eq_ofRatio negative significand exponent
  rw [double_eq, value_eq, isFinite_ofRatio_iff, fieldsOfUnits_lt_iff_roundsToFinite num den_pos,
    roundsToFinite_withSign]

theorem isNearest_ofDecimal (finite : (ofDecimal negative significand exponent).isFinite = true) :
    (ofDecimal negative significand exponent).IsNearest
      (withSign negative (significand * 10 ^ exponent)) := by
  obtain ⟨num, den, den_pos, double_eq, value_eq⟩ :=
    exists_ofDecimal_eq_ofRatio negative significand exponent
  rw [double_eq] at finite ⊢
  rw [value_eq]
  exact isNearest_ofRatio negative den_pos ((isFinite_ofRatio_iff negative num den).mp finite)

/-! ## Numbers far from the bound -/

theorem roundsToFinite_of_le_one {q : ℚ} (small : |q| ≤ 1) : RoundsToFinite q := by
  obtain ⟨k, -, bound_eq⟩ := exists_overflow_eq
  rw [RoundsToFinite, bound_eq]
  have unit_ge : (1 : ℚ) ≤ 2 ^ k := one_le_pow₀ one_le_two
  linarith

theorem not_roundsToFinite_of_le {q : ℚ} {k : Nat} (k_ge : 512 ≤ k) (large : 10 ^ k ≤ |q|) :
    ¬RoundsToFinite q := by
  have next_le : (2 : ℚ) ^ 1024 ≤ |q| :=
    calc
      (2 : ℚ) ^ 1024 = (2 ^ 2) ^ 512 := by rw [← pow_mul]
      _ ≤ 10 ^ 512 := pow_le_pow_left₀ (by norm_num) (by norm_num) 512
      _ ≤ 10 ^ k := pow_le_pow_right₀ (by norm_num) k_ge
      _ ≤ |q| := large
  rw [RoundsToFinite, not_lt, two_mul]
  exact add_le_add (largestFinite_le.trans next_le) next_le

end RequestParams.Binary64
