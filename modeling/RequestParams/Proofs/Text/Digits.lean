import Mathlib.Data.Nat.Digits.Defs
import Mathlib.Tactic.Common
import RequestParams.Text.Digits

/-!
# Digits and the numbers they write

A text of so many ASCII digits writes a number below that power of ten. Among the ASCII characters
there are no digits but the ten.
-/

namespace RequestParams.Text

theorem isDigit_iff (c : Char) : isDigit c = true ↔ 48 ≤ c.toNat ∧ c.toNat ≤ 57 := by
  rw [isDigit, Bool.and_eq_true, decide_eq_true_iff, decide_eq_true_iff]
  rfl

theorem digitValue_le {c : Char} (digit : isDigit c = true) : digitValue c ≤ 9 := by
  have bounds := (isDigit_iff c).mp digit
  have zero_eq : '0'.toNat = 48 := rfl
  rw [digitValue, zero_eq]
  omega

theorem foldl_digits_lt (digits : List Char) (digit : ∀ c ∈ digits, isDigit c = true) (n : Nat) :
    digits.foldl (fun n c => 10 * n + digitValue c) n < (n + 1) * Nat.pow 10 digits.length := by
  induction digits generalizing n with
  | nil => exact Nat.lt_of_lt_of_eq n.lt_succ_self (Nat.mul_one _).symm
  | cons c digits induction =>
      have value_le := digitValue_le (digit c List.mem_cons_self)
      have tail_lt := induction (fun d d_mem => digit d (List.mem_cons_of_mem c d_mem))
        (10 * n + digitValue c)
      have power_succ : Nat.pow 10 (digits.length + 1) = Nat.pow 10 digits.length * 10 := rfl
      rw [List.foldl_cons, List.length_cons, power_succ]
      calc
        _ < (10 * n + digitValue c + 1) * Nat.pow 10 digits.length := tail_lt
        _ ≤ ((n + 1) * 10) * Nat.pow 10 digits.length := Nat.mul_le_mul_right _ (by omega)
        _ = (n + 1) * (Nat.pow 10 digits.length * 10) := by
          rw [Nat.mul_assoc, Nat.mul_comm 10]

theorem digitsValue_lt {digits : List Char} (digit : ∀ c ∈ digits, isDigit c = true) :
    digitsValue digits < Nat.pow 10 digits.length := by
  have bound := foldl_digits_lt digits digit 0
  rwa [Nat.zero_add, Nat.one_mul] at bound

theorem le_foldl_digits (digits : List Char) (n : Nat) :
    n ≤ digits.foldl (fun n c => 10 * n + digitValue c) n := by
  induction digits generalizing n with
  | nil => exact Nat.le_refl n
  | cons c digits induction =>
      calc
        n ≤ 10 * n + digitValue c := by omega
        _ ≤ (c :: digits).foldl (fun n c => 10 * n + digitValue c) n := induction _

/-- Digits write a number in base ten, the last being the lowest. -/
theorem digitsValue_eq_ofDigits (digits : List Char) :
    digitsValue digits = Nat.ofDigits 10 (digits.reverse.map digitValue) := by
  rw [digitsValue, List.foldl_eq_foldr_reverse, Nat.ofDigits_eq_foldr, List.foldr_map]
  simp only [Nat.cast_id, Nat.add_comm]

theorem digitsValue_toDigits (n : Nat) : digitsValue (Nat.toDigits 10 n) = n :=
  Nat.ofDigitChars_ten_toDigits

theorem isDigit_of_mem_toDigits {n : Nat} {c : Char} (mem : c ∈ Nat.toDigits 10 n) :
    isDigit c = true :=
  Nat.isDigit_of_mem_toDigits (by decide) (by decide) mem

/-- Only the number zero is written with a zero in front. -/
theorem toDigits_ne_zero_cons {n : Nat} (positive : 0 < n) (rest : List Char) :
    Nat.toDigits 10 n ≠ '0' :: rest := by
  induction n using Nat.strongRecOn generalizing rest with
  | ind n induction =>
      intro starts
      rw [Nat.toDigits_eq_if (by decide)] at starts
      by_cases single : n < 10
      · have not_zero : ∀ digit < 10, 0 < digit → Nat.digitChar digit ≠ '0' := by decide
        rw [if_pos single] at starts
        exact not_zero n single positive (List.cons.inj starts).1
      · obtain ⟨first, more, digits_eq⟩ :=
          List.exists_cons_of_ne_nil (Nat.toDigits_ne_nil (n := n / 10) (b := 10))
        rw [if_neg single, digits_eq, List.cons_append] at starts
        rw [(List.cons.inj starts).1] at digits_eq
        exact induction (n / 10) (by omega) (by omega) more digits_eq

theorem natural?_eq_some_iff (s : List Char) (n : Nat) :
    natural? s = some n ↔ s ≠ [] ∧ (∀ c ∈ s, isDigit c = true) ∧ n = digitsValue s := by
  simp only [natural?, isDigits, Option.ite_none_right_eq_some, Bool.and_eq_true,
    Bool.not_eq_true', List.isEmpty_eq_false_iff, List.all_eq_true, Option.some.injEq, and_assoc,
    @eq_comm Nat]

theorem isDecimalDigit_of_isDigit {c : Char} (digit : isDigit c = true) :
    isDecimalDigit c = true := by
  have bounds := (isDigit_iff c).mp digit
  refine List.any_eq_true.mpr ⟨0x30, List.mem_cons_self, ?_⟩
  rw [Bool.and_eq_true, decide_eq_true_iff, decide_eq_true_iff]
  omega

theorem isDigit_of_isDecimalDigit {c : Char} (decimal : isDecimalDigit c = true)
    (ascii : c.toNat < 128) : isDigit c = true := by
  obtain ⟨first, first_mem, within⟩ := List.any_eq_true.mp decimal
  have first_cases : ∀ first ∈ zeroDigits, first = 0x30 ∨ 128 ≤ first := by decide
  rw [Bool.and_eq_true, decide_eq_true_iff, decide_eq_true_iff] at within
  rw [isDigit_iff]
  have first_case := first_cases first first_mem
  omega

end RequestParams.Text
