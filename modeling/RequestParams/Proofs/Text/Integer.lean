import RequestParams.Proofs.Text.Digits
import RequestParams.Text.Integer

/-!
# Texts of integers

A text is read as an integer exactly if it is one or more ASCII digits, with or without a sign, and
the number that they write is in range. Signed integers are read with a check at each digit. A
number only moves away from zero on the way, so the checks fail exactly if the whole number is out
of range.
-/

namespace RequestParams.Text

theorem ofNat_in_range_eq_some_iff (m : Nat) (n : UInt16) :
    (if m < UInt16.size then some (UInt16.ofNat m) else none) = some n ↔ m = n.toNat := by
  rw [Option.ite_none_right_eq_some, Option.some.injEq]
  constructor
  · rintro ⟨in_range, rfl⟩
    exact (UInt16.toNat_ofNat_of_lt' in_range).symm
  · rintro rfl
    exact ⟨n.toNat_lt, UInt16.ofNat_toNat⟩

theorem uint16?_eq_some_iff (s : List Char) (n : UInt16) :
    uint16? s = some n ↔
      ∃ sign digits, s = sign ++ digits ∧ (sign = [] ∨ sign = ['+']) ∧ digits ≠ [] ∧
        (∀ c ∈ digits, isDigit c = true) ∧ n.toNat = digitsValue digits := by
  simp only [uint16?, Option.bind_eq_some_iff, ofNat_in_range_eq_some_iff, exists_eq_right]
  constructor
  · intro read
    split at read
    · rename_i rest
      exact ⟨['+'], rest, rfl, .inr rfl, (natural?_eq_some_iff rest n.toNat).mp read⟩
    · exact ⟨[], s, rfl, .inl rfl, (natural?_eq_some_iff s n.toNat).mp read⟩
  · rintro ⟨sign, digits, rfl, rfl | rfl, written⟩
    · rw [List.nil_append]
      split
      · -- A plus sign is no digit.
        have plus_digit := written.2.1 '+' List.mem_cons_self
        cases plus_digit
      · exact (natural?_eq_some_iff digits n.toNat).mpr written
    · exact (natural?_eq_some_iff digits n.toNat).mpr written

/-! ## Signed integers -/

/-- One or more ASCII digits, which write a number in base ten. -/
structure WritesNumber (digits : List Char) (n : Nat) : Prop where
  /-- There is a digit. -/
  nonempty : digits ≠ []
  /-- There is nothing else. -/
  digit : ∀ c ∈ digits, isDigit c = true
  /-- The last digit is the lowest. -/
  value_eq : n = Nat.ofDigits 10 (digits.reverse.map digitValue)

/-- The digits of an integer after one sign or none. -/
inductive WritesInteger : List Char → Int → Prop
  | plain {digits : List Char} {n : Nat} (number : WritesNumber digits n) : WritesInteger digits n
  | plus {digits : List Char} {n : Nat} (number : WritesNumber digits n) :
      WritesInteger ('+' :: digits) n
  | minus {digits : List Char} {n : Nat} (number : WritesNumber digits n) :
      WritesInteger ('-' :: digits) (-n)

theorem WritesNumber.not_sign {digits : List Char} {n : Nat} {sign : Char}
    (number : WritesNumber (sign :: digits) n) : sign ≠ '+' ∧ sign ≠ '-' := by
  have digit := number.digit sign List.mem_cons_self
  constructor <;>
  · rintro rfl
    cases digit

theorem WritesInteger.unique {s : List Char} {z w : Int} (writes : WritesInteger s z)
    (also_writes : WritesInteger s w) : z = w := by
  cases writes with
  | plain number =>
      cases also_writes with
      | plain other => rw [number.value_eq, other.value_eq]
      | plus => exact absurd rfl number.not_sign.1
      | minus => exact absurd rfl number.not_sign.2
  | plus number =>
      cases also_writes with
      | plain other => exact absurd rfl other.not_sign.1
      | plus other => rw [number.value_eq, other.value_eq]
  | minus number =>
      cases also_writes with
      | plain other => exact absurd rfl other.not_sign.2
      | minus other => rw [number.value_eq, other.value_eq]

/-- The number as an integer, below zero if it is negative. -/
def signedValue : Bool → Nat → Int
  | false, n => n
  | true, n => -n

theorem int64OfInt?_eq_some_iff (z : Int) (n : Int64) : int64OfInt? z = some n ↔ z = n.toInt := by
  rw [int64OfInt?, Option.ite_none_right_eq_some, Option.some.injEq]
  constructor
  · rintro ⟨⟨above, below⟩, rfl⟩
    rw [Int64.toInt_minValue] at above
    rw [Int64.toInt_maxValue] at below
    exact (Int64.toInt_ofInt_of_le above (by omega)).symm
  · rintro rfl
    exact ⟨⟨n.minValue_le_toInt, n.toInt_le⟩, Int64.ofInt_toInt n⟩

/-- What is further from zero than a number out of range is out of range. -/
theorem int64OfInt?_eq_none_of_le {negative : Bool} {m n : Nat} (le : m ≤ n)
    (leaves : int64OfInt? (signedValue negative m) = none) :
    int64OfInt? (signedValue negative n) = none := by
  have zero_above : Int64.minValue.toInt ≤ 0 := by decide
  have zero_below : 0 ≤ Int64.maxValue.toInt := by decide
  simp only [int64OfInt?, ite_eq_right_iff, reduceCtorEq, imp_false] at leaves ⊢
  cases negative <;>
  · simp only [signedValue] at leaves ⊢
    omega

/-- One more digit is read exactly, or the number with it is out of range. -/
theorem pushDigit?_eq {negative : Bool} {n : Int64} {m : Nat}
    (n_eq : n.toInt = signedValue negative m) (c : Char) :
    pushDigit? negative n c = int64OfInt? (signedValue negative (10 * m + digitValue c)) := by
  have product_eq : 10 * n.toInt = signedValue negative (10 * m) := by
    cases negative <;>
    · simp only [signedValue] at n_eq ⊢
      omega
  rw [pushDigit?, product_eq]
  cases product : int64OfInt? (signedValue negative (10 * m)) with
  | none => exact (int64OfInt?_eq_none_of_le (Nat.le_add_right _ _) product).symm
  | some shifted =>
      have shifted_eq := (int64OfInt?_eq_some_iff _ _).mp product
      rw [Option.bind_eq_bind, Option.bind_some, ← shifted_eq]
      congr 1
      cases negative with
      | false => exact (Int.natCast_add _ _).symm
      | true =>
          simp only [signedValue, if_true]
          omega

/-- Digits are read exactly, or the number with all of them is out of range. -/
theorem pushDigits?_eq_some_iff {negative : Bool} {n : Int64} {m : Nat}
    (n_eq : n.toInt = signedValue negative m) (digits : List Char) (z : Int64) :
    pushDigits? negative n digits = some z ↔
      (∀ c ∈ digits, isDigit c = true) ∧
        z.toInt = signedValue negative (digits.foldl (fun n c => 10 * n + digitValue c) m) := by
  induction digits generalizing n m with
  | nil =>
      rw [pushDigits?, Option.some.injEq, List.foldl_nil, ← n_eq, Int64.toInt_inj, eq_comm]
      simp
  | cons c digits induction =>
      rw [pushDigits?, List.forall_mem_cons, List.foldl_cons]
      by_cases digit : isDigit c = true
      · rw [if_pos digit, pushDigit?_eq n_eq]
        cases next : int64OfInt? (signedValue negative (10 * m + digitValue c)) with
        | none =>
            -- No later digit brings the number back into the range.
            have leaves := int64OfInt?_eq_none_of_le (le_foldl_digits digits _) next
            refine iff_of_false (by simp) fun ⟨_, z_eq⟩ => ?_
            rw [(int64OfInt?_eq_some_iff _ z).mpr z_eq.symm] at leaves
            cases leaves
        | some n =>
            have next_eq := (int64OfInt?_eq_some_iff _ _).mp next
            simp only [Option.bind_eq_bind, Option.bind_some, induction next_eq.symm, digit,
              true_and]
      · rw [if_neg digit]
        simp [digit]

theorem signedDigits?_eq_some_iff (negative : Bool) (digits : List Char) (z : Int64) :
    signedDigits? negative digits = some z ↔
      ∃ n, WritesNumber digits n ∧ z.toInt = signedValue negative n := by
  have zero_eq : (0 : Int64).toInt = signedValue negative 0 := by cases negative <;> rfl
  rw [signedDigits?, Option.ite_none_left_eq_some, pushDigits?_eq_some_iff zero_eq,
    List.isEmpty_iff]
  constructor
  · rintro ⟨nonempty, digit, z_eq⟩
    exact ⟨_, ⟨nonempty, digit, digitsValue_eq_ofDigits digits⟩, z_eq⟩
  · rintro ⟨n, ⟨nonempty, digit, rfl⟩, z_eq⟩
    exact ⟨nonempty, digit, z_eq.trans (by rw [← digitsValue_eq_ofDigits, digitsValue])⟩

/-- A text is read as a signed integer exactly if it writes that integer: no other text is read, and
no integer that a text writes is wrapped or cut off. -/
theorem int64?_eq_some_iff (s : String) (n : Int64) :
    int64? s = some n ↔ WritesInteger s.toList n.toInt := by
  rw [int64?]
  generalize s.toList = chars
  constructor
  · intro read
    split at read <;> obtain ⟨m, number, n_eq⟩ := (signedDigits?_eq_some_iff _ _ _).mp read <;>
      rw [n_eq]
    · exact .minus number
    · exact .plus number
    · exact .plain number
  · intro written
    generalize n_eq : n.toInt = z at written
    cases written with
    | @plain digits m number =>
        split
        · exact absurd rfl number.not_sign.2
        · exact absurd rfl number.not_sign.1
        · exact (signedDigits?_eq_some_iff false _ n).mpr ⟨m, number, n_eq⟩
    | @plus digits m number =>
        exact (signedDigits?_eq_some_iff false digits n).mpr ⟨m, number, n_eq⟩
    | @minus digits m number =>
        exact (signedDigits?_eq_some_iff true digits n).mpr ⟨m, number, n_eq⟩

end RequestParams.Text
