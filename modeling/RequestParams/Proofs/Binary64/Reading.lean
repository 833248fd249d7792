import RequestParams.Binary64.Reading
import RequestParams.Proofs.Binary64.Decimal
import RequestParams.Proofs.Text.Integer
import RequestParams.Proofs.Text.Spelling

/-!
# Texts of decimals

A text is read as a double exactly if it is a decimal in ASCII digits and the decimal is rounded to
a finite double. Of an exponent only so many leading digits are read as make `2 ^ 16` or more. An
exponent below `655360` is read in full; beyond, the double is that of another number, which makes a
difference only for decimals of more than sixty-five thousand digits.
-/

namespace RequestParams

namespace Text

/-! ## Decimals as they are written -/

/-- A sign that may be left out; true is a minus. -/
inductive WritesSign : List Char → Bool → Prop
  | absent : WritesSign [] false
  | plus : WritesSign ['+'] false
  | minus : WritesSign ['-'] true

/-- Digits, digits and a point with or without digits after it, or a point and digits. -/
inductive WritesMantissa : List Char → List Char → List Char → Prop
  | whole {digits : List Char} (nonempty : digits ≠ []) (digit : ∀ c ∈ digits, isDigit c = true) :
      WritesMantissa digits digits []
  | pointed {whole fraction : List Char} (nonempty : whole ≠ [])
      (whole_digit : ∀ c ∈ whole, isDigit c = true)
      (fraction_digit : ∀ c ∈ fraction, isDigit c = true) :
      WritesMantissa (whole ++ '.' :: fraction) whole fraction
  | fraction {digits : List Char} (nonempty : digits ≠ [])
      (digit : ∀ c ∈ digits, isDigit c = true) : WritesMantissa ('.' :: digits) [] digits

/-- A power of ten that may be left out: a letter and an integer. -/
inductive WritesExponent : List Char → Int → Prop
  | absent : WritesExponent [] 0
  | marked {mark : Char} {s : List Char} {n : Int} (mark_eq : mark = 'e' ∨ mark = 'E')
      (integer : WritesInteger s n) : WritesExponent (mark :: s) n

/-- The number that the leading digits make once they make `2 ^ 16` or more. -/
def leadingDigits (n : Nat) : Nat := if n < 655360 then n else leadingDigits (n / 10)

/-- The exponent that is read for a written one. -/
def exponentAsRead (z : Int) : Int :=
  if z < 0 then -leadingDigits z.natAbs else leadingDigits z.natAbs

/-- The parts of a decimal. -/
structure DecimalParts where
  /-- Whether a minus stands in front. -/
  negative : Bool
  /-- The digits before the point. -/
  whole : List Char
  /-- The digits after the point. -/
  fraction : List Char
  /-- The power of ten. -/
  exponent : Int

/-- A decimal: a sign, a mantissa and an exponent, with nothing before or after. -/
inductive WritesDecimal : List Char → DecimalParts → Prop
  | parts {sign mantissa power whole fraction : List Char} {negative : Bool} {exponent : Int}
      (writes_sign : WritesSign sign negative)
      (writes_mantissa : WritesMantissa mantissa whole fraction)
      (writes_exponent : WritesExponent power exponent) :
      WritesDecimal (sign ++ (mantissa ++ power)) ⟨negative, whole, fraction, exponent⟩

/-- A name of a number that is not finite, in small letters or capitals, after one sign or none. -/
inductive WritesNonfinite : List Char → Prop
  | named {sign : List Char} {negative : Bool} {word name : String}
      (writes_sign : WritesSign sign negative) (word_mem : word ∈ ["nan", "inf", "infinity"])
      (spelled : SpelledAs word name) : WritesNonfinite (sign ++ name.toList)

namespace DecimalParts

/-- The digits as one number. -/
def significand (d : DecimalParts) : Nat := digitsValue (d.whole ++ d.fraction)

/-- The power of ten of the last digit. -/
def scale (d : DecimalParts) : Int := d.exponent - d.fraction.length

/-- The number that a decimal denotes. -/
def value (d : DecimalParts) : ℚ := Binary64.withSign d.negative (d.significand * 10 ^ d.scale)

/-- The decimal with the exponent that is read. -/
def asRead (d : DecimalParts) : DecimalParts := { d with exponent := exponentAsRead d.exponent }

/-- The double that a decimal is rounded to. -/
def rounded (d : DecimalParts) : Binary64 := .ofDecimal d.negative d.significand d.scale

end DecimalParts

end Text

namespace Binary64

open Text

/-! ## Signs and digits -/

theorem writesSign_splitSign (s : List Char) :
    ∃ sign, WritesSign sign (splitSign s).1 ∧ s = sign ++ (splitSign s).2 := by
  rw [splitSign.eq_def]
  split
  · exact ⟨_, .minus, rfl⟩
  · exact ⟨_, .plus, rfl⟩
  · exact ⟨_, .absent, rfl⟩

/-- A text that a sign can stand before. -/
def Unsigned (s : List Char) : Prop := ∀ c, s.head? = some c → c ≠ '+' ∧ c ≠ '-'

theorem splitSign_append {sign rest : List Char} {negative : Bool}
    (writes : WritesSign sign negative) (unsigned : Unsigned rest) :
    splitSign (sign ++ rest) = (negative, rest) := by
  cases writes with
  | absent =>
      rw [List.nil_append, splitSign]
      · rintro tail rfl
        exact (unsigned '-' rfl).2 rfl
      · rintro tail rfl
        exact (unsigned '+' rfl).1 rfl
  | plus | minus => rfl

theorem Unsigned.of_digits {digits : List Char} (digit : ∀ c ∈ digits, isDigit c = true) :
    Unsigned digits := by
  intro c head_eq
  have c_digit := digit c (List.mem_of_head? head_eq)
  constructor <;>
  · rintro rfl
    cases c_digit

theorem Unsigned.append {s : List Char} (unsigned : Unsigned s) (nonempty : s ≠ [])
    (rest : List Char) : Unsigned (s ++ rest) := by
  rwa [Unsigned, List.head?_append_of_ne_nil s nonempty]

theorem isDigits_iff (s : List Char) :
    isDigits s = true ↔ s ≠ [] ∧ ∀ c ∈ s, isDigit c = true := by
  rw [isDigits, Bool.and_eq_true, Bool.not_eq_true', List.isEmpty_eq_false_iff, List.all_eq_true]

theorem writesNumber_iff (digits : List Char) (n : Nat) :
    WritesNumber digits n ↔ isDigits digits = true ∧ n = digitsValue digits := by
  rw [isDigits_iff, digitsValue_eq_ofDigits]
  constructor
  · rintro ⟨nonempty, digit, value_eq⟩
    exact ⟨⟨nonempty, digit⟩, value_eq⟩
  · rintro ⟨⟨nonempty, digit⟩, value_eq⟩
    exact ⟨nonempty, digit, value_eq⟩

theorem writesInteger_iff (s : List Char) (z : Int) :
    WritesInteger s z ↔ ∃ sign negative digits n,
      WritesSign sign negative ∧ s = sign ++ digits ∧ WritesNumber digits n ∧
        z = signedValue negative n := by
  constructor
  · intro writes
    cases writes with
    | plain number => exact ⟨_, _, _, _, .absent, rfl, number, rfl⟩
    | plus number => exact ⟨_, _, _, _, .plus, rfl, number, rfl⟩
    | minus number => exact ⟨_, _, _, _, .minus, rfl, number, rfl⟩
  · rintro ⟨sign, negative, digits, n, writes_sign, rfl, number, rfl⟩
    cases writes_sign with
    | absent => exact .plain number
    | plus => exact .plus number
    | minus => exact .minus number

/-- An integer is read by its sign and the digits after it. -/
theorem writesInteger_iff_splitSign (s : List Char) (z : Int) :
    WritesInteger s z ↔
      isDigits (splitSign s).2 = true ∧
        z = signedValue (splitSign s).1 (digitsValue (splitSign s).2) := by
  rw [writesInteger_iff]
  constructor
  · rintro ⟨sign, negative, digits, n, writes_sign, rfl, number, rfl⟩
    rw [splitSign_append writes_sign (.of_digits number.digit)]
    obtain ⟨digits_eq, rfl⟩ := (writesNumber_iff digits n).mp number
    exact ⟨digits_eq, rfl⟩
  · rintro ⟨digits_eq, z_eq⟩
    obtain ⟨sign, writes_sign, s_eq⟩ := writesSign_splitSign s
    exact ⟨sign, _, _, _, writes_sign, s_eq, (writesNumber_iff _ _).mpr ⟨digits_eq, rfl⟩, z_eq⟩

/-! ## Exponents -/

theorem leadingDigits_of_lt {n : Nat} (small : n < 655360) : leadingDigits n = n := by
  rw [leadingDigits, if_pos small]

theorem leadingDigits_of_le {n : Nat} (large : 655360 ≤ n) :
    leadingDigits n = leadingDigits (n / 10) := by
  rw [leadingDigits, if_neg (Nat.not_lt.mpr large)]

theorem le_leadingDigits {n : Nat} (large : 65536 ≤ n) : 65536 ≤ leadingDigits n := by
  induction n using Nat.strongRecOn with
  | ind n induction =>
      rcases Nat.lt_or_ge n 655360 with small | far
      · rwa [leadingDigits_of_lt small]
      · rw [leadingDigits_of_le far]
        exact induction (n / 10) (by omega) (by omega)

theorem exponentValue_append (digits : List Char) (c : Char) :
    exponentValue (digits ++ [c]) =
      if exponentValue digits < 65536 then 10 * exponentValue digits + digitValue c
      else exponentValue digits := by
  rw [exponentValue, List.foldl_append]
  rfl

theorem digitsValue_append (digits : List Char) (c : Char) :
    digitsValue (digits ++ [c]) = 10 * digitsValue digits + digitValue c := by
  rw [digitsValue, List.foldl_append]
  rfl

/-- Of the digits of an exponent the leading ones are read. -/
theorem exponentValue_eq {digits : List Char} (digit : ∀ c ∈ digits, isDigit c = true) :
    exponentValue digits = leadingDigits (digitsValue digits) := by
  induction digits using List.reverseRecOn with
  | nil => exact (leadingDigits_of_lt (by decide)).symm
  | append_singleton digits c induction =>
      have value_le := digitValue_le (digit c (List.mem_append_right _ List.mem_cons_self))
      rw [exponentValue_append, digitsValue_append,
        induction fun d d_mem => digit d (List.mem_append_left _ d_mem)]
      generalize digitsValue digits = n
      by_cases small : n < 65536
      · rw [leadingDigits_of_lt (by omega : n < 655360), if_pos small,
          leadingDigits_of_lt (by omega)]
      · have quotient_eq : (10 * n + digitValue c) / 10 = n := by omega
        have leading_ge := le_leadingDigits (Nat.not_lt.mp small)
        rw [if_neg (by omega), leadingDigits_of_le (n := 10 * n + digitValue c) (by omega),
          quotient_eq]

theorem signedValue_leadingDigits (negative : Bool) (n : Nat) :
    signedValue negative (leadingDigits n) = exponentAsRead (signedValue negative n) := by
  rw [exponentAsRead]
  cases negative with
  | false => rw [signedValue, signedValue, if_neg (by omega), Int.natAbs_natCast]
  | true =>
      rw [signedValue, signedValue, Int.natAbs_neg, Int.natAbs_natCast]
      split_ifs with below
      · rfl
      · have zero_eq : leadingDigits n = 0 := by
          rw [show n = 0 by omega]
          exact leadingDigits_of_lt (by decide)
        rw [zero_eq]
        rfl

theorem exponentAsRead_of_lt {z : Int} (small : z.natAbs < 655360) : exponentAsRead z = z := by
  rw [exponentAsRead, leadingDigits_of_lt small]
  omega

theorem readExponent?_cons_eq_some_iff (mark : Char) (rest : List Char) (z : Int) :
    readExponent? (mark :: rest) = some z ↔
      (mark = 'e' ∨ mark = 'E') ∧ isDigits (splitSign rest).2 = true ∧
        signedValue (splitSign rest).1 (exponentValue (splitSign rest).2) = z := by
  rw [readExponent?, Option.ite_none_right_eq_some, Option.ite_none_right_eq_some,
    Option.some.injEq]
  cases (splitSign rest).1 <;> rfl

theorem readExponent?_eq_some_iff (s : List Char) (z : Int) :
    readExponent? s = some z ↔ ∃ n, WritesExponent s n ∧ exponentAsRead n = z := by
  cases s with
  | nil =>
      have zero_eq := exponentAsRead_of_lt (z := 0) (by decide)
      constructor
      · intro read
        exact ⟨0, .absent, zero_eq.trans (Option.some.inj read)⟩
      · rintro ⟨n, writes, rfl⟩
        cases writes
        rw [zero_eq, readExponent?]
  | cons mark rest =>
      rw [readExponent?_cons_eq_some_iff]
      constructor
      · rintro ⟨mark_eq, digits, rfl⟩
        have integer := (writesInteger_iff_splitSign rest _).mpr ⟨digits, rfl⟩
        refine ⟨_, .marked mark_eq integer, ?_⟩
        rw [← signedValue_leadingDigits, exponentValue_eq ((isDigits_iff _).mp digits).2]
      · rintro ⟨n, writes, rfl⟩
        cases writes with
        | marked mark_eq integer =>
            obtain ⟨digits, rfl⟩ := (writesInteger_iff_splitSign rest n).mp integer
            refine ⟨mark_eq, digits, ?_⟩
            rw [← signedValue_leadingDigits, exponentValue_eq ((isDigits_iff _).mp digits).2]

/-! ## Mantissas -/

/-- A text that ends a mantissa. -/
def EndsMantissa (s : List Char) : Prop := ∀ c, s.head? = some c → isDigit c = false ∧ c ≠ '.'

theorem EndsMantissa.of_writesExponent {s : List Char} {z : Int} (writes : WritesExponent s z) :
    EndsMantissa s := by
  intro c head_eq
  cases writes with
  | absent => cases head_eq
  | marked mark_eq integer =>
      obtain rfl := Option.some.inj head_eq
      rcases mark_eq with rfl | rfl <;> exact ⟨rfl, by decide⟩

/-- The digits that a text begins with and what comes after them. -/
theorem takeWhile_dropWhile_append {digits rest : List Char}
    (digit : ∀ c ∈ digits, isDigit c = true)
    (stop : ∀ c, rest.head? = some c → isDigit c = false) :
    (digits ++ rest).takeWhile isDigit = digits ∧ (digits ++ rest).dropWhile isDigit = rest := by
  rw [List.takeWhile_append_of_pos digit, List.dropWhile_append_of_pos digit]
  cases rest with
  | nil => exact ⟨List.append_nil digits, rfl⟩
  | cons c rest =>
      have not_digit : ¬isDigit c = true := by simp [stop c rfl]
      rw [List.takeWhile_cons_of_neg not_digit, List.dropWhile_cons_of_neg not_digit]
      exact ⟨List.append_nil digits, rfl⟩

theorem splitFraction_of_ends {rest : List Char} (ends : EndsMantissa rest) :
    splitFraction rest = ([], rest) := by
  rw [splitFraction]
  rintro tail rfl
  exact (ends '.' rfl).2 rfl

theorem splitFraction_point {fraction rest : List Char}
    (digit : ∀ c ∈ fraction, isDigit c = true) (ends : EndsMantissa rest) :
    splitFraction ('.' :: (fraction ++ rest)) = (fraction, rest) := by
  obtain ⟨taken, dropped⟩ := takeWhile_dropWhile_append digit fun c head_eq => (ends c head_eq).1
  rw [splitFraction, taken, dropped]

/-- A mantissa is read by the digits before the point and those after it. -/
theorem reads_of_writesMantissa {mantissa whole fraction rest : List Char}
    (writes : WritesMantissa mantissa whole fraction) (ends : EndsMantissa rest) :
    (mantissa ++ rest).takeWhile isDigit = whole ∧
      splitFraction ((mantissa ++ rest).dropWhile isDigit) = (fraction, rest) := by
  cases writes with
  | whole nonempty digit =>
      obtain ⟨taken, dropped⟩ :=
        takeWhile_dropWhile_append digit fun c head_eq => (ends c head_eq).1
      rw [taken, dropped]
      exact ⟨rfl, splitFraction_of_ends ends⟩
  | pointed nonempty whole_digit fraction_digit =>
      have stop : ∀ c, ('.' :: (fraction ++ rest)).head? = some c → isDigit c = false := by
        rintro c head_eq
        obtain rfl := Option.some.inj head_eq
        rfl
      obtain ⟨taken, dropped⟩ := takeWhile_dropWhile_append whole_digit stop
      rw [List.append_assoc, List.cons_append, taken, dropped]
      exact ⟨rfl, splitFraction_point fraction_digit ends⟩
  | fraction nonempty digit => exact ⟨rfl, splitFraction_point digit ends⟩

theorem exists_writesMantissa (s : List Char)
    (nonempty : s.takeWhile isDigit ++ (splitFraction (s.dropWhile isDigit)).1 ≠ []) :
    ∃ mantissa,
      WritesMantissa mantissa (s.takeWhile isDigit) (splitFraction (s.dropWhile isDigit)).1 ∧
        s = mantissa ++ (splitFraction (s.dropWhile isDigit)).2 := by
  have digit : ∀ c ∈ s.takeWhile isDigit, isDigit c = true := fun _ => List.mem_takeWhile_imp
  have s_eq : s = s.takeWhile isDigit ++ s.dropWhile isDigit := List.takeWhile_append_dropWhile.symm
  generalize s.takeWhile isDigit = whole at *
  generalize s.dropWhile isDigit = rest at *
  rw [splitFraction.eq_def] at nonempty ⊢
  split at nonempty
  · rename_i after
    have fraction_digit : ∀ c ∈ after.takeWhile isDigit, isDigit c = true :=
      fun _ => List.mem_takeWhile_imp
    rcases eq_or_ne whole [] with rfl | pointed
    · refine ⟨_, .fraction nonempty fraction_digit, ?_⟩
      rw [s_eq, List.nil_append, List.cons_append, List.takeWhile_append_dropWhile]
    · refine ⟨_, .pointed pointed digit fraction_digit, ?_⟩
      rw [s_eq, List.append_assoc, List.cons_append, List.takeWhile_append_dropWhile]
  · rw [List.append_nil] at nonempty
    exact ⟨whole, .whole nonempty digit, s_eq⟩

theorem Unsigned.of_writesMantissa {mantissa whole fraction : List Char}
    (writes : WritesMantissa mantissa whole fraction) (rest : List Char) :
    Unsigned (mantissa ++ rest) := by
  cases writes with
  | whole nonempty digit => exact (Unsigned.of_digits digit).append nonempty rest
  | pointed nonempty whole_digit _ =>
      rw [List.append_assoc]
      exact (Unsigned.of_digits whole_digit).append nonempty _
  | fraction =>
      intro c head_eq
      obtain rfl := Option.some.inj head_eq
      decide

theorem nonempty_of_writesMantissa {mantissa whole fraction : List Char}
    (writes : WritesMantissa mantissa whole fraction) : whole ++ fraction ≠ [] := by
  cases writes with
  | whole nonempty _ => rwa [List.append_nil]
  | pointed nonempty _ _ => exact List.append_ne_nil_of_left_ne_nil nonempty _
  | fraction nonempty _ => exact nonempty

/-! ## Decimals -/

/-- A decimal is read by its sign, the digits before the point, those after it and the exponent. -/
theorem writesDecimal_iff (s : List Char) (d : DecimalParts) :
    WritesDecimal s d ↔ ∃ body rest, splitSign s = (d.negative, body) ∧
      body.takeWhile isDigit = d.whole ∧
      splitFraction (body.dropWhile isDigit) = (d.fraction, rest) ∧
      d.whole ++ d.fraction ≠ [] ∧ WritesExponent rest d.exponent := by
  constructor
  · rintro ⟨writes_sign, writes_mantissa, writes_exponent⟩
    have unsigned := Unsigned.of_writesMantissa writes_mantissa
    have reads := reads_of_writesMantissa writes_mantissa (.of_writesExponent writes_exponent)
    exact ⟨_, _, splitSign_append writes_sign (unsigned _), reads.1, reads.2,
      nonempty_of_writesMantissa writes_mantissa, writes_exponent⟩
  · rintro ⟨body, rest, sign_eq, whole_eq, fraction_eq, nonempty, writes_exponent⟩
    obtain ⟨sign, writes_sign, s_eq⟩ := writesSign_splitSign s
    obtain ⟨mantissa, writes_mantissa, body_eq⟩ :=
      exists_writesMantissa body (by rwa [whole_eq, fraction_eq])
    rw [sign_eq] at writes_sign s_eq
    rw [whole_eq, fraction_eq] at writes_mantissa
    rw [fraction_eq] at body_eq
    rw [s_eq, body_eq]
    exact .parts writes_sign writes_mantissa writes_exponent

theorem writesExponent_unique {s : List Char} {z w : Int} (writes : WritesExponent s z)
    (also_writes : WritesExponent s w) : z = w := by
  cases writes with
  | absent =>
      cases also_writes
      rfl
  | marked _ integer =>
      cases also_writes with
      | marked _ also_integer => exact integer.unique also_integer

/-- A text writes no two decimals. -/
theorem writesDecimal_unique {s : List Char} {d e : DecimalParts} (writes : WritesDecimal s d)
    (also_writes : WritesDecimal s e) : d = e := by
  obtain ⟨body, rest, sign_eq, whole_eq, fraction_eq, -, exponent⟩ :=
    (writesDecimal_iff s d).mp writes
  obtain ⟨other, after, sign_eq', whole_eq', fraction_eq', -, exponent'⟩ :=
    (writesDecimal_iff s e).mp also_writes
  obtain ⟨negative_eq, rfl⟩ := Prod.mk.inj (sign_eq.symm.trans sign_eq')
  obtain ⟨fraction_eq, rfl⟩ := Prod.mk.inj (fraction_eq.symm.trans fraction_eq')
  rw [DecimalParts.mk.injEq]
  exact ⟨negative_eq, whole_eq.symm.trans whole_eq', fraction_eq,
    writesExponent_unique exponent exponent'⟩

/-- What begins with neither a digit nor a point after its sign is no decimal. -/
theorem not_writesDecimal_of_endsMantissa {sign rest : List Char} {negative : Bool}
    (writes_sign : WritesSign sign negative) (unsigned : Unsigned rest) (ends : EndsMantissa rest)
    (d : DecimalParts) : ¬WritesDecimal (sign ++ rest) d := by
  intro writes
  obtain ⟨body, after, sign_eq, whole_eq, fraction_eq, nonempty, -⟩ :=
    (writesDecimal_iff _ d).mp writes
  obtain ⟨-, rfl⟩ := Prod.mk.inj ((splitSign_append writes_sign unsigned).symm.trans sign_eq)
  have no_digits : ∀ c ∈ ([] : List Char), isDigit c = true := fun c c_mem => nomatch c_mem
  obtain ⟨taken, dropped⟩ :=
    takeWhile_dropWhile_append no_digits fun c head_eq => (ends c head_eq).1
  rw [List.nil_append] at taken dropped
  rw [dropped, splitFraction_of_ends ends] at fraction_eq
  obtain ⟨fraction_eq, -⟩ := Prod.mk.inj fraction_eq
  rw [← whole_eq, ← fraction_eq, taken] at nonempty
  exact nonempty rfl

theorem initial_of_spelledAs {word name : String} (word_mem : word ∈ ["nan", "inf", "infinity"])
    (spelled : SpelledAs word name) {c : Char} (head_eq : name.toList.head? = some c) :
    c ∈ ['n', 'N', 'i', 'I'] := by
  obtain ⟨rest, name_eq⟩ := List.head?_eq_some_iff.mp head_eq
  rw [SpelledAs, name_eq, List.forall₂_cons_right_iff] at spelled
  obtain ⟨letter, letters, letter_spelled, -, word_eq⟩ := spelled
  have letter_eq : letter = 'n' ∨ letter = 'i' := by
    have word_eq := congrArg List.head? word_eq
    simp only [List.mem_cons, List.not_mem_nil, or_false] at word_mem
    rcases word_mem with rfl | rfl | rfl
    · exact .inl (Option.some.inj word_eq).symm
    · exact .inr (Option.some.inj word_eq).symm
    · exact .inr (Option.some.inj word_eq).symm
  rcases letter_eq with rfl | rfl <;> rcases letter_spelled with rfl | rfl <;> decide

/-- Names of numbers that are not finite are no decimals. -/
theorem not_writesDecimal_of_nonfinite {s : List Char} (names : WritesNonfinite s)
    (d : DecimalParts) : ¬WritesDecimal s d := by
  have letters : ∀ c ∈ ['n', 'N', 'i', 'I'],
      (c ≠ '+' ∧ c ≠ '-') ∧ isDigit c = false ∧ c ≠ '.' := by simp [isDigit]
  cases names with
  | named writes_sign word_mem spelled =>
      apply not_writesDecimal_of_endsMantissa writes_sign
      · exact fun c head_eq => (letters c (initial_of_spelledAs word_mem spelled head_eq)).1
      · exact fun c head_eq => (letters c (initial_of_spelledAs word_mem spelled head_eq)).2

theorem ofChars?_eq_some_iff (s : List Char) (w : Written) :
    Written.ofChars? s = some w ↔ ∃ d, WritesDecimal s d ∧
      ⟨d.negative, d.whole ++ d.fraction, d.asRead.scale⟩ = w := by
  simp only [writesDecimal_iff, Written.ofChars?, Option.ite_none_left_eq_some,
    Option.map_eq_some_iff, readExponent?_eq_some_iff, List.isEmpty_iff]
  constructor
  · rintro ⟨nonempty, _, ⟨z, writes_exponent, rfl⟩, rfl⟩
    exact ⟨⟨_, _, _, z⟩, ⟨_, _, rfl, rfl, rfl, nonempty, writes_exponent⟩, rfl⟩
  · rintro ⟨⟨negative, whole, fraction, z⟩, ⟨body, rest, sign_eq, rfl, fraction_eq, nonempty,
      writes_exponent⟩, rfl⟩
    rw [sign_eq, fraction_eq]
    exact ⟨nonempty, _, ⟨z, writes_exponent, rfl⟩, rfl⟩

theorem isFinite_rounded_iff (d : DecimalParts) :
    d.rounded.isFinite = true ↔ RoundsToFinite d.value :=
  isFinite_ofDecimal_iff d.negative d.significand d.scale

/-- A decimal that does not overflow is rounded to a double that is closest to it. -/
theorem isNearest_rounded {d : DecimalParts} (finite : RoundsToFinite d.value) :
    d.rounded.IsNearest d.value :=
  isNearest_ofDecimal d.negative d.significand d.scale ((isFinite_rounded_iff d).mpr finite)

/-- A text is read as a double exactly if it is a decimal that, with the exponent that is read, is
rounded to a finite double. -/
theorem ofText?_eq_some_iff (text : String) (x : Binary64) :
    ofText? text = some x ↔ ∃ d, WritesDecimal text.toList d ∧
      RoundsToFinite d.asRead.value ∧ d.asRead.rounded = x := by
  simp only [ofText?, Option.bind_eq_some_iff, Option.ite_none_right_eq_some, Option.some.injEq,
    ofChars?_eq_some_iff]
  constructor
  · rintro ⟨_, ⟨d, writes, rfl⟩, finite, rfl⟩
    exact ⟨d, writes, (isFinite_rounded_iff d.asRead).mp finite, rfl⟩
  · rintro ⟨d, writes, finite, rfl⟩
    exact ⟨_, ⟨d, writes, rfl⟩, (isFinite_rounded_iff d.asRead).mpr finite, rfl⟩

theorem ofText?_eq_none_iff (text : String) :
    ofText? text = none ↔ ∀ d, WritesDecimal text.toList d → ¬RoundsToFinite d.asRead.value := by
  rw [Option.eq_none_iff_forall_ne_some]
  constructor
  · intro unread d writes finite
    exact unread _ ((ofText?_eq_some_iff text _).mpr ⟨d, writes, finite, rfl⟩)
  · intro overflows x read
    obtain ⟨d, writes, finite, -⟩ := (ofText?_eq_some_iff text x).mp read
    exact overflows d writes finite

/-! ## Exponents that are read in part -/

theorem asRead_of_lt {d : DecimalParts} (small : d.exponent.natAbs < 655360) : d.asRead = d := by
  rw [DecimalParts.asRead, exponentAsRead_of_lt small]

theorem digit_of_writesDecimal {s : List Char} {d : DecimalParts} (writes : WritesDecimal s d) :
    ∀ c ∈ d.whole ++ d.fraction, isDigit c = true := by
  obtain ⟨-, writes_mantissa, -⟩ := writes
  cases writes_mantissa with
  | whole _ digit => rwa [List.append_nil]
  | pointed _ whole_digit fraction_digit =>
      exact List.forall_mem_append.mpr ⟨whole_digit, fraction_digit⟩
  | fraction _ digit => exact digit

theorem abs_value (d : DecimalParts) : |d.value| = d.significand * 10 ^ d.scale := by
  rw [DecimalParts.value, abs_withSign, abs_of_nonneg (by positivity)]

/-- A decimal with an exponent that moves all digits behind the point is at most one. -/
theorem roundsToFinite_of_exponent_le {d : DecimalParts}
    (digit : ∀ c ∈ d.whole ++ d.fraction, isDigit c = true)
    (low : d.exponent ≤ -d.whole.length) : RoundsToFinite d.value := by
  apply roundsToFinite_of_le_one
  have digits_lt : d.significand < 10 ^ (d.whole.length + d.fraction.length) := by
    rw [← List.length_append]
    exact digitsValue_lt digit
  have ten_ne : (10 : ℚ) ≠ 0 := by norm_num
  rw [abs_value]
  calc
    (d.significand * 10 ^ d.scale : ℚ) ≤
        10 ^ (d.whole.length + d.fraction.length) * 10 ^ d.scale := by
      refine mul_le_mul_of_nonneg_right ?_ (by positivity)
      exact_mod_cast digits_lt.le
    _ = 10 ^ (d.whole.length + d.exponent) := by
      rw [← zpow_natCast, ← zpow_add₀ ten_ne, DecimalParts.scale]
      congr 1
      push_cast
      omega
    _ ≤ 1 := zpow_le_one_of_nonpos₀ (by norm_num) (by omega)

/-- A decimal with an exponent that moves all digits far before the point overflows. -/
theorem not_roundsToFinite_of_le_exponent {d : DecimalParts} (nonzero : d.significand ≠ 0)
    (high : d.fraction.length + 512 ≤ d.exponent) : ¬RoundsToFinite d.value := by
  obtain ⟨k, scale_eq⟩ : ∃ k : Nat, d.scale = k :=
    Int.eq_ofNat_of_zero_le (by rw [DecimalParts.scale]; omega)
  have k_ge : 512 ≤ k := by
    rw [DecimalParts.scale] at scale_eq
    omega
  refine not_roundsToFinite_of_le k_ge ?_
  rw [abs_value, scale_eq, zpow_natCast]
  refine le_mul_of_one_le_left (by positivity) ?_
  exact_mod_cast Nat.one_le_iff_ne_zero.mpr nonzero

theorem roundsToFinite_of_significand_eq_zero {d : DecimalParts} (zero : d.significand = 0) :
    RoundsToFinite d.value := by
  apply roundsToFinite_of_le_one
  rw [abs_value, zero, Nat.cast_zero, zero_mul]
  exact zero_le_one

/-- Up to sixty-five thousand digits before and after the point, the part of the exponent that is
read decides like the whole: either leaves all digits behind the point or moves them far beyond the
bound. -/
theorem roundsToFinite_asRead_iff {s : List Char} {d : DecimalParts} (writes : WritesDecimal s d)
    (short : d.exponent.natAbs < 655360 ∨
      d.whole.length ≤ 65000 ∧ d.fraction.length ≤ 65000) :
    RoundsToFinite d.asRead.value ↔ RoundsToFinite d.value := by
  have digit := digit_of_writesDecimal writes
  rcases short with small | ⟨whole_le, fraction_le⟩
  · rw [asRead_of_lt small]
  by_cases small : d.exponent.natAbs < 655360
  · rw [asRead_of_lt small]
  have leading_ge : 65536 ≤ leadingDigits d.exponent.natAbs := le_leadingDigits (by omega)
  have read_eq : d.asRead.exponent = exponentAsRead d.exponent := rfl
  rw [exponentAsRead] at read_eq
  by_cases zero : d.significand = 0
  · exact iff_of_true (roundsToFinite_of_significand_eq_zero zero)
      (roundsToFinite_of_significand_eq_zero zero)
  by_cases negative : d.exponent < 0
  · rw [if_pos negative] at read_eq
    have read_low : d.asRead.exponent ≤ -d.whole.length := by omega
    exact iff_of_true (roundsToFinite_of_exponent_le digit read_low)
      (roundsToFinite_of_exponent_le digit (by omega))
  · rw [if_neg negative] at read_eq
    have read_high : d.fraction.length + 512 ≤ d.asRead.exponent := by omega
    exact iff_of_false (not_roundsToFinite_of_le_exponent zero read_high)
      (not_roundsToFinite_of_le_exponent zero (by omega))

end Binary64

end RequestParams
