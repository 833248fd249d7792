import RequestParams.Json.Token
import RequestParams.Proofs.Text.Digits

/-!
# JSON numbers read back

A number is written as an optional minus sign, digits without a leading zero, and perhaps a fraction
and an exponent. Its text is read as far as it goes, provided that what follows does not go on with
it: a number has no end of its own.
-/

namespace RequestParams

namespace Numeral

open Text

/-! ## Numbers as they are written -/

/-- Digits before a point: a zero stands alone. -/
structure WholeText (digits : List Char) : Prop where
  nonempty : digits ≠ []
  digit : ∀ c ∈ digits, isDigit c = true
  zero_alone : ∀ rest, digits = '0' :: rest → rest = []

/-- Nothing, or a point with its digits. -/
inductive FractionText : List Char → List Char → Prop
  | none : FractionText [] []
  | digits {digits : List Char} (nonempty : digits ≠ []) (digit : ∀ c ∈ digits, isDigit c = true) :
      FractionText ('.' :: digits) digits

/-- An optional sign, with whether it is a minus. -/
inductive SignText : List Char → Bool → Prop
  | none : SignText [] false
  | plus : SignText ['+'] false
  | minus : SignText ['-'] true

/-- Nothing, or a letter with a sign and digits. -/
inductive ExponentText : List Char → Option (Bool × List Char) → Prop
  | none : ExponentText [] none
  | digits {letter : Char} {sign digits : List Char} {negative : Bool}
      (is_letter : letter = 'e' ∨ letter = 'E') (signed : SignText sign negative)
      (nonempty : digits ≠ []) (digit : ∀ c ∈ digits, isDigit c = true) :
      ExponentText (letter :: sign ++ digits) (some (negative, digits))

/-- A number without its sign, with its parts. -/
inductive UnsignedText :
    List Char → List Char → List Char → Option (Bool × List Char) → Prop
  | parts {whole fraction fractionChars exponentChars : List Char}
      {exponent : Option (Bool × List Char)} (whole_text : WholeText whole)
      (fraction_text : FractionText fractionChars fraction)
      (exponent_text : ExponentText exponentChars exponent) :
      UnsignedText (whole ++ (fractionChars ++ exponentChars)) whole fraction exponent

/-- The text of a number. -/
inductive Writes : List Char → Numeral → Prop
  | unsigned {s whole fraction : List Char} {exponent : Option (Bool × List Char)}
      (written : UnsignedText s whole fraction exponent) :
      Writes s ⟨false, whole, fraction, exponent⟩
  | negative {s whole fraction : List Char} {exponent : Option (Bool × List Char)}
      (written : UnsignedText s whole fraction exponent) :
      Writes ('-' :: s) ⟨true, whole, fraction, exponent⟩

/-- What does not go on with a number. -/
def Ends (rest : List Char) : Prop :=
  ∀ c ∈ rest.head?, isDigit c = false ∧ c ≠ '.' ∧ c ≠ 'e' ∧ c ≠ 'E'

theorem ends_nil : Ends [] := by simp [Ends]

theorem ends_cons_iff (c : Char) (rest : List Char) :
    Ends (c :: rest) ↔ isDigit c = false ∧ c ≠ '.' ∧ c ≠ 'e' ∧ c ≠ 'E' := by
  simp [Ends]

/-! ## Reading -/

section Parts

variable {s digits fraction rest : List Char}

theorem takeDigits?_append (nonempty : digits ≠ []) (digit : ∀ c ∈ digits, isDigit c = true)
    (ends : ∀ c ∈ rest.head?, isDigit c = false) :
    takeDigits? (digits ++ rest) = some (digits, rest) := by
  have no_digit : rest.takeWhile isDigit = [] ∧ rest.dropWhile isDigit = rest := by
    cases rest with
    | nil => exact ⟨rfl, rfl⟩
    | cons c rest =>
        have not_digit : ¬isDigit c = true := by simp [ends c rfl]
        exact ⟨List.takeWhile_cons_of_neg not_digit, List.dropWhile_cons_of_neg not_digit⟩
  rw [takeDigits?, List.takeWhile_append_of_pos digit, List.dropWhile_append_of_pos digit,
    no_digit.1, no_digit.2, List.append_nil]
  split
  · contradiction
  · rfl

theorem takeWhole?_append (whole : WholeText digits) (ends : ∀ c ∈ rest.head?, isDigit c = false) :
    takeWhole? (digits ++ rest) = some (digits, rest) := by
  rw [takeWhole?, takeDigits?_append whole.nonempty whole.digit ends]
  split
  · rename_i taken
    obtain ⟨digits_eq, -⟩ := Prod.mk.inj (Option.some.inj taken)
    cases whole.zero_alone _ digits_eq
  · rfl

theorem takeFraction?_append (written : FractionText s fraction)
    (ends : ∀ c ∈ rest.head?, isDigit c = false ∧ c ≠ '.') :
    takeFraction? (s ++ rest) = some (fraction, rest) := by
  cases written with
  | none =>
      rw [List.nil_append, takeFraction?.eq_def]
      split
      · exact absurd rfl (ends '.' rfl).2
      · rfl
  | digits nonempty digit =>
      rw [List.cons_append, takeFraction?]
      exact takeDigits?_append nonempty digit fun c c_mem => (ends c c_mem).1

theorem takeSign_append {negative : Bool} (written : SignText s negative) (nonempty : digits ≠ [])
    (digit : ∀ c ∈ digits, isDigit c = true) :
    takeSign (s ++ (digits ++ rest)) = (negative, digits ++ rest) := by
  cases written with
  | none =>
      obtain ⟨c, more, rfl⟩ := List.exists_cons_of_ne_nil nonempty
      have c_digit := digit c List.mem_cons_self
      rw [List.nil_append, List.cons_append, takeSign.eq_def]
      split
      any_goals
        rename_i first
        rw [(List.cons.inj first).1] at c_digit
        cases c_digit
      rfl
  | plus => rfl
  | minus => rfl

theorem takeExponent?_append {exponent : Option (Bool × List Char)}
    (written : ExponentText s exponent) (ends : Ends rest) :
    takeExponent? (s ++ rest) = some (exponent, rest) := by
  cases written with
  | none =>
      cases rest with
      | nil => rfl
      | cons c rest =>
          obtain ⟨-, -, not_small, not_capital⟩ := (ends_cons_iff c rest).mp ends
          rw [List.nil_append, takeExponent?, if_neg (not_or_intro not_small not_capital)]
  | digits is_letter signed nonempty digit =>
      rw [List.cons_append, List.cons_append, takeExponent?, if_pos is_letter, List.append_assoc,
        takeSign_append signed nonempty digit]
      simp only [takeDigits?_append nonempty digit fun c c_mem => (ends c c_mem).1,
        Option.map_some]

theorem ends_digits_of_exponentText {exponent : Option (Bool × List Char)}
    (written : ExponentText s exponent) (ends : Ends rest) :
    ∀ c ∈ (s ++ rest).head?, isDigit c = false ∧ c ≠ '.' := by
  cases written with
  | none => exact fun c c_mem => ⟨(ends c c_mem).1, (ends c c_mem).2.1⟩
  | digits is_letter =>
      intro c c_mem
      obtain rfl := Option.some.inj c_mem
      rcases is_letter with rfl | rfl <;> decide

theorem ends_digits_of_fractionText (written : FractionText s fraction)
    (ends : ∀ c ∈ rest.head?, isDigit c = false ∧ c ≠ '.') :
    ∀ c ∈ (s ++ rest).head?, isDigit c = false := by
  cases written with
  | none => exact fun c c_mem => (ends c c_mem).1
  | digits =>
      intro c c_mem
      obtain rfl := Option.some.inj c_mem
      decide

end Parts

section Taken

variable {s afterWhole afterFraction rest whole fraction : List Char}
  {exponent : Option (Bool × List Char)} (whole_taken : takeWhole? s = some (whole, afterWhole))
  (fraction_taken : takeFraction? afterWhole = some (fraction, afterFraction))
  (exponent_taken : takeExponent? afterFraction = some (exponent, rest))
include whole_taken fraction_taken exponent_taken

theorem take?_of_taken (unsigned : ∀ t, s ≠ '-' :: t) :
    take? s = some (⟨false, whole, fraction, exponent⟩, rest) := by
  rw [take?.eq_def]
  split
  rename_i signed
  split at signed
  · exact absurd rfl (unsigned _)
  · cases signed
    simp only [whole_taken, fraction_taken, exponent_taken, bind, Option.bind_some, pure]

theorem take?_minus_of_taken :
    take? ('-' :: s) = some (⟨true, whole, fraction, exponent⟩, rest) := by
  simp only [take?, whole_taken, fraction_taken, exponent_taken, bind, Option.bind_some, pure]

end Taken

theorem UnsignedText.exists_taken {s whole fraction rest : List Char}
    {exponent : Option (Bool × List Char)} (written : UnsignedText s whole fraction exponent)
    (ends : Ends rest) :
    ∃ afterWhole afterFraction, takeWhole? (s ++ rest) = some (whole, afterWhole) ∧
      takeFraction? afterWhole = some (fraction, afterFraction) ∧
      takeExponent? afterFraction = some (exponent, rest) := by
  obtain ⟨whole_text, fraction_text, exponent_text⟩ := written
  have ends_fraction := ends_digits_of_exponentText exponent_text ends
  have ends_whole := ends_digits_of_fractionText fraction_text ends_fraction
  refine ⟨_, _, ?_, takeFraction?_append fraction_text ends_fraction,
    takeExponent?_append exponent_text ends⟩
  rw [List.append_assoc, List.append_assoc]
  exact takeWhole?_append whole_text ends_whole

theorem UnsignedText.exists_digit {s whole fraction : List Char}
    {exponent : Option (Bool × List Char)} (written : UnsignedText s whole fraction exponent) :
    ∃ c t, s = c :: t ∧ isDigit c = true := by
  obtain ⟨whole_text, -, -⟩ := written
  obtain ⟨c, digits, rfl⟩ := List.exists_cons_of_ne_nil whole_text.nonempty
  exact ⟨c, _, rfl, whole_text.digit c List.mem_cons_self⟩

/-- A number is read up to what does not go on with it. -/
theorem Writes.take?_append {s rest : List Char} {n : Numeral} (written : Writes s n)
    (ends : Ends rest) : take? (s ++ rest) = some (n, rest) := by
  cases written with
  | unsigned written =>
      obtain ⟨_, _, whole_taken, fraction_taken, exponent_taken⟩ := written.exists_taken ends
      refine take?_of_taken whole_taken fraction_taken exponent_taken fun t starts => ?_
      obtain ⟨c, _, rfl, digit⟩ := written.exists_digit
      cases (List.cons.inj starts).1
      cases digit
  | negative written =>
      obtain ⟨_, _, whole_taken, fraction_taken, exponent_taken⟩ := written.exists_taken ends
      exact take?_minus_of_taken whole_taken fraction_taken exponent_taken

/-- A number starts with a digit or a minus sign. -/
theorem Writes.exists_cons {s : List Char} {n : Numeral} (written : Writes s n) :
    ∃ c t, s = c :: t ∧ (isDigit c = true ∨ c = '-') := by
  cases written with
  | unsigned written =>
      obtain ⟨c, t, rfl, digit⟩ := written.exists_digit
      exact ⟨c, t, rfl, .inl digit⟩
  | negative => exact ⟨'-', _, rfl, .inr rfl⟩

/-! ## Whole numbers -/

theorem wholeText_toDigits (n : Nat) : WholeText (Nat.toDigits 10 n) where
  nonempty := Nat.toDigits_ne_nil
  digit := fun _ => isDigit_of_mem_toDigits
  zero_alone := fun rest digits_eq => by
    rcases Nat.eq_zero_or_pos n with rfl | positive
    · exact (List.cons.inj digits_eq).2.symm
    · exact absurd digits_eq (toDigits_ne_zero_cons positive rest)

/-- The numeral of a number from zero up. -/
def ofNat (n : Nat) : Numeral := ⟨false, Nat.toDigits 10 n, [], none⟩

theorem writes_toDigits (n : Nat) : Writes (Nat.toDigits 10 n) (ofNat n) := by
  have written := UnsignedText.parts (wholeText_toDigits n) .none .none
  rw [List.append_nil, List.append_nil] at written
  exact .unsigned written

theorem number?_ofNat {n : Nat} (fits : n < UInt64.size) :
    (ofNat n).number? = some (.unsigned (UInt64.ofNat n)) := by
  have value_eq : digitsValue (ofNat n).whole = n := digitsValue_toDigits n
  have integral : (ofNat n).isIntegral = true := rfl
  simp only [number?, value_eq, integral, Bool.not_true, Bool.false_eq_true, if_false]
  rw [if_pos (show (!(ofNat n).negative) = true from rfl), if_pos fits]

end Numeral

end RequestParams
