import RequestParams.Proofs.Grammar.Email
import RequestParams.Proofs.Grammar.IsoLayout
import RequestParams.Proofs.Grammar.Phone
import RequestParams.Proofs.Pattern.Languages

/-!
# Rules that are patterns

Email addresses and phone numbers can also be told by a pattern. The patterns have the languages of
the two grammars, so that a rule with the pattern accepts what the rule with the grammar accepts. A
pattern of dates and times has the texts that are laid out as such; of these the rule accepts those
whose parts name a date and a time.
-/

namespace RequestParams.Rule

open Pattern Pattern.Expr Grammar.Phone Grammar.Email Grammar.IsoDatetime

theorem ofString?_text (pattern : Pattern) : Pattern.ofString? pattern.text = some pattern := by
  obtain ⟨text, expr, expr_of_text⟩ := pattern
  unfold Pattern.ofString?
  split
  · rename_i other other_of_text
    obtain rfl := Option.some.inj (expr_of_text.symm.trans other_of_text)
    rfl
  · rename_i unreadable
    cases expr_of_text.symm.trans unreadable

/-- A rule is made from the text of a pattern. -/
theorem mkRegex_text (pattern : Pattern) : mkRegex pattern.text = .ok (regex pattern) := by
  rw [mkRegex, ofString?_text]

theorem accepts_regex (pattern : Pattern) (s : String) :
    (regex pattern).accepts (.str s) = pattern.matchesIn s :=
  rfl

/-! ## Single characters -/

/-- A character that stands for itself. -/
def sign (c : Char) : Expr := .char (CharClass.range c c) 1

/-- Either of two characters as a bracketed class. -/
def eitherClass (first second : Char) : CharClass :=
  (CharClass.none.union (.range first first)).union (.range second second)

theorem range_self_iff (sign c : Char) : CharClass.range sign sign c = true ↔ c = sign := by
  rw [CharClass.range, Bool.and_eq_true, decide_eq_true_iff, decide_eq_true_iff]
  constructor
  · rintro ⟨above, below⟩
    exact Char.le_antisymm below above
  · rintro rfl
    exact ⟨Char.le_refl c, Char.le_refl c⟩

theorem eitherClass_iff (first second c : Char) :
    eitherClass first second c = true ↔ c ∈ [first, second] := by
  rw [eitherClass, CharClass.union, CharClass.union, Bool.or_eq_true, Bool.or_eq_true,
    range_self_iff, range_self_iff]
  simp [CharClass.none]

theorem spells_sign (c : Char) : (sign c).Spells (· = [c]) := by
  refine (spells_char (CharClass.range c c) 1).congr fun s => ?_
  simp only [range_self_iff, exists_eq_right]

theorem spells_eitherClass (first second : Char) (cost : Nat) :
    (char (eitherClass first second) cost).Spells fun s => ∃ c, s = [c] ∧ c ∈ [first, second] := by
  refine (spells_char (eitherClass first second) cost).congr fun s => ?_
  simp only [eitherClass_iff]

/-! ## Phone numbers -/

/-- ASCII digits as a bracketed class. -/
def digitClass : CharClass := CharClass.none.union (.range '0' '9')

def digits (least most : Nat) : Expr := .repeated (.char digitClass 3) least (some most)

def separator : Expr := .repeated (.char (eitherClass '-' ' ') 4) 0 (some 1)

def countryCode : Expr :=
  .repeated (seqs [sign '+', digits 1 3, separator]) 0 (some 1)

/-- A country code and three groups of digits. -/
def phoneGroups : List Expr :=
  [countryCode, digits 2 4, separator, digits 3 4, separator, digits 4 4]

-- The reader is recursive on the length of what is left, and is opened to be run.
set_option maxRecDepth 20000 in
/-- The pattern of phone numbers. -/
def phonePattern : Pattern where
  text := "^(?:\\+[0-9]\x7b1,3\x7d[- ]?)?[0-9]\x7b2,4\x7d[- ]?[0-9]\x7b3,4\x7d[- ]?[0-9]\x7b4\x7d$"
  expr := seqs (.look .textStart :: phoneGroups ++ [.look .textEnd])
  expr_of_text := by with_unfolding_all rfl

theorem digitClass_iff (c : Char) : digitClass c = true ↔ Text.isDigit c = true := by
  simp [digitClass, CharClass.union, CharClass.none, CharClass.range, Text.isDigit]

theorem spells_digits {least most : Nat} (le : least ≤ most) :
    (digits least most).Spells (DigitRun least most) := by
  refine (spells_run digitClass 3 le).congr fun s => ?_
  simp only [digitClass_iff]
  constructor
  · rintro ⟨least_le, le_most, digit⟩
    exact ⟨least_le, le_most, digit⟩
  · rintro ⟨least_le, le_most, digit⟩
    exact ⟨least_le, le_most, digit⟩

theorem spells_separator : separator.Spells (· ∈ separators) := by
  refine (spells_eitherClass '-' ' ' 4).optional.congr fun s => ?_
  simp only [separators, List.mem_cons, List.not_mem_nil, or_false, and_or_left, exists_or,
    exists_eq_right]
  rw [or_comm (a := s = ['-'])]

theorem spells_countryCode : countryCode.Spells CountryText := by
  have code := (spells_sign '+').cons ((spells_digits (by decide : 1 ≤ 3)).cons
    (spells_separator.cons spells_nil))
  refine code.optional.congr fun s => ?_
  constructor
  · rintro (rfl | ⟨_, _, rfl, rfl, digits, _, rfl, run, separator, _, rfl, separator_mem, rfl⟩)
    · exact .absent
    · rw [List.append_nil, List.singleton_append]
      exact .code run separator_mem
  · intro country_text
    cases country_text with
    | absent => exact .inl rfl
    | @code digits separator run separator_mem =>
        exact .inr ⟨['+'], _, rfl, rfl, digits, _, rfl, run, separator, [],
          (List.append_nil _).symm, separator_mem, rfl⟩

theorem spells_phoneGroups : (seqs phoneGroups).Spells PhoneText := by
  have groups := spells_countryCode.cons ((spells_digits (by decide : 2 ≤ 4)).cons
    (spells_separator.cons ((spells_digits (by decide : 3 ≤ 4)).cons (spells_separator.cons
      ((spells_digits (by decide : 4 ≤ 4)).cons spells_nil)))))
  refine groups.congr fun s => ?_
  constructor
  · rintro ⟨country, _, rfl, country_text, area, _, rfl, area_run, first, _, rfl, first_mem,
      exchange, _, rfl, exchange_run, second, _, rfl, second_mem, subscriber, _, rfl,
      subscriber_run, rfl⟩
    rw [List.append_nil]
    exact .groups country_text area_run first_mem exchange_run second_mem subscriber_run
  · rintro ⟨country_text, area_run, first_mem, exchange_run, second_mem, subscriber_run⟩
    exact ⟨_, _, rfl, country_text, _, _, rfl, area_run, _, _, rfl, first_mem, _, _, rfl,
      exchange_run, _, _, rfl, second_mem, _, [], (List.append_nil _).symm, subscriber_run, rfl⟩

/-- The rule for phone numbers accepts what a rule with their pattern accepts. -/
theorem accepts_regex_phonePattern (value : Value) :
    (regex phonePattern).accepts value = phoneNumber.accepts value := by
  have same : ∀ s : String, phonePattern.matchesIn s = Grammar.isPhone s := by
    intro s
    rw [Bool.eq_iff_iff, isPhone_iff]
    exact matchesIn_anchored_iff spells_phoneGroups s.toList
  rw [accepts, accepts, funext same]

/-! ## Email addresses -/

def letterOrDigitClass : CharClass :=
  ((CharClass.none.union (.range 'a' 'z')).union (.range 'A' 'Z')).union (.range '0' '9')

/-- Letters, digits and the signs of names as a bracketed class. -/
def nameClass : CharClass :=
  ".!#$%&'*+/=?^_`\x7b|\x7d~-".toList.foldl (fun s c => s.union (CharClass.range c c))
    letterOrDigitClass

def labelClass : CharClass := letterOrDigitClass.union (CharClass.range '-' '-')

/-- A letter or a digit at an end of a label. -/
def labelEnd : Expr := .char letterOrDigitClass 5

/-- One letter or digit, or two with up to sixty-one characters of labels between them. -/
def label : List Expr :=
  [labelEnd, .repeated (seqs [.repeated (.char labelClass 6) 0 (some 61), labelEnd]) 0 (some 1)]

/-- A label and any number of labels after dots. -/
def domain : List Expr :=
  label ++ [.repeated (seqs (sign '.' :: label)) 0 none]

def addressParts : List Expr :=
  .repeated (.char nameClass 25) 1 none :: sign '@' :: domain

set_option maxRecDepth 20000 in
/-- The pattern of email addresses. -/
def emailPattern : Pattern where
  text := "^[a-zA-Z0-9.!#$%&'*+/=?^_`\x7b|\x7d~-]+@" ++
    "[a-zA-Z0-9](?:[a-zA-Z0-9-]\x7b0,61\x7d[a-zA-Z0-9])?" ++
    "(?:\\.[a-zA-Z0-9](?:[a-zA-Z0-9-]\x7b0,61\x7d[a-zA-Z0-9])?)*$"
  expr := seqs (.look .textStart :: addressParts ++ [.look .textEnd])
  expr_of_text := by with_unfolding_all rfl

theorem letterOrDigitClass_iff (c : Char) : letterOrDigitClass c = true ↔ IsLetterOrDigit c := by
  simp [letterOrDigitClass, CharClass.union, CharClass.none, CharClass.range, IsLetterOrDigit,
    or_assoc]

theorem labelClass_iff (c : Char) : labelClass c = true ↔ IsLetterOrDigit c ∨ c = '-' := by
  rw [labelClass, CharClass.union, Bool.or_eq_true, letterOrDigitClass_iff, range_self_iff]

theorem foldl_union_iff (signs : List Char) (cls : CharClass) (c : Char) :
    signs.foldl (fun s sign => s.union (CharClass.range sign sign)) cls c = true ↔
      cls c = true ∨ c ∈ signs := by
  induction signs generalizing cls with
  | nil => simp
  | cons sign signs induction =>
      rw [List.foldl_cons, induction, CharClass.union, Bool.or_eq_true, range_self_iff,
        List.mem_cons, or_assoc]

theorem nameClass_iff (c : Char) : nameClass c = true ↔ IsNameChar c := by
  rw [nameClass, foldl_union_iff, letterOrDigitClass_iff, IsNameChar]

theorem spells_labelEnd : labelEnd.Spells fun s => ∃ c, s = [c] ∧ IsLetterOrDigit c := by
  refine (spells_char letterOrDigitClass 5).congr fun s => ?_
  simp only [letterOrDigitClass_iff]

theorem not_isLetterOrDigit_hyphen : ¬IsLetterOrDigit '-' := by
  unfold IsLetterOrDigit
  decide

theorem labelText_of_ends {s : List Char} (length_pos : 1 ≤ s.length) (length_le : s.length ≤ 63)
    (label_char : ∀ c ∈ s, IsLetterOrDigit c ∨ c = '-')
    (first : ∀ c, s.head? = some c → IsLetterOrDigit c)
    (last : ∀ c, s.getLast? = some c → IsLetterOrDigit c) : LabelText s := by
  refine ⟨length_pos, length_le, label_char, ?_, ?_⟩
  · rintro rest rfl
    exact not_isLetterOrDigit_hyphen (first '-' rfl)
  · rintro front rfl
    exact not_isLetterOrDigit_hyphen (last '-' List.getLast?_concat)

theorem labelText_single {c : Char} (letter_or_digit : IsLetterOrDigit c) : LabelText [c] := by
  refine labelText_of_ends (Nat.le_refl 1) (Nat.le_add_left 1 62)
    (List.forall_mem_singleton.mpr (.inl letter_or_digit)) ?_ ?_
  · exact fun d d_eq => Option.some.inj d_eq ▸ letter_or_digit
  · exact fun d d_eq => Option.some.inj d_eq ▸ letter_or_digit

theorem labelText_between {c d : Char} {middle : List Char} (first : IsLetterOrDigit c)
    (length_le : middle.length ≤ 61) (middle_char : ∀ c ∈ middle, IsLetterOrDigit c ∨ c = '-')
    (last : IsLetterOrDigit d) : LabelText (c :: (middle ++ [d])) := by
  have length_eq : (c :: (middle ++ [d])).length = middle.length + 2 := by simp
  refine labelText_of_ends (by omega) (by omega) ?_ ?_ ?_
  · simp only [List.forall_mem_cons, List.forall_mem_append]
    exact ⟨.inl first, middle_char, .inl last, List.forall_mem_nil _⟩
  · exact fun e e_eq => Option.some.inj e_eq ▸ first
  · intro e last_eq
    rw [← List.cons_append, List.getLast?_concat] at last_eq
    exact Option.some.inj last_eq ▸ last

/-- A label of more than one character has a letter or a digit at each end. -/
theorem single_or_between_of_labelText {s : List Char} (label_text : LabelText s) :
    (∃ c, s = [c] ∧ IsLetterOrDigit c) ∨
      ∃ c middle d, s = c :: (middle ++ [d]) ∧ IsLetterOrDigit c ∧ middle.length ≤ 61 ∧
        (∀ c ∈ middle, IsLetterOrDigit c ∨ c = '-') ∧ IsLetterOrDigit d := by
  obtain ⟨length_pos, length_le, label_char, first_ne, last_ne⟩ := label_text
  obtain ⟨c, rest, rfl⟩ := List.exists_cons_of_length_pos length_pos
  obtain ⟨c_char, rest_char⟩ := List.forall_mem_cons.mp label_char
  have first : IsLetterOrDigit c := c_char.resolve_right fun hyphen => first_ne rest (hyphen ▸ rfl)
  rcases rest.eq_nil_or_concat with rfl | ⟨middle, d, rfl⟩
  · exact .inl ⟨c, rfl, first⟩
  · rw [List.concat_eq_append] at rest_char length_le first_ne last_ne ⊢
    obtain ⟨middle_char, last_char⟩ := List.forall_mem_append.mp rest_char
    have last : IsLetterOrDigit d := (List.forall_mem_singleton.mp last_char).resolve_right
      fun hyphen => last_ne (c :: middle) (hyphen ▸ rfl)
    refine .inr ⟨c, middle, d, rfl, first, ?_, middle_char, last⟩
    simp only [List.length_cons, List.length_append, List.length_nil] at length_le
    omega

theorem spells_label : (seqs label).Spells LabelText := by
  have inner :=
    (spells_run labelClass 6 (by decide : 0 ≤ 61)).cons (spells_labelEnd.cons spells_nil)
  refine (spells_labelEnd.cons (inner.optional.cons spells_nil)).congr fun s => ?_
  simp only [labelClass_iff]
  constructor
  · rintro ⟨_, _, rfl, ⟨c, rfl, first⟩, _, _, rfl,
      rfl | ⟨middle, _, rfl, ⟨-, length_le, middle_char⟩, _, _, rfl, ⟨d, rfl, last⟩, rfl⟩, rfl⟩
    · exact labelText_single first
    · rw [List.append_nil, List.append_nil]
      exact labelText_between first length_le middle_char last
  · intro label_text
    rcases single_or_between_of_labelText label_text with ⟨c, rfl, first⟩ |
      ⟨c, middle, d, rfl, first, length_le, middle_char, last⟩
    · exact ⟨[c], [], rfl, ⟨c, rfl, first⟩, [], [], rfl, .inl rfl, rfl⟩
    · exact ⟨[c], _, rfl, ⟨c, rfl, first⟩, _, [], (List.append_nil _).symm, .inr ⟨middle, _, rfl,
        ⟨Nat.zero_le _, length_le, middle_char⟩, [d], [], rfl, ⟨d, rfl, last⟩, rfl⟩, rfl⟩

theorem intercalate_cons_eq (label : List Char) (labels : List (List Char)) :
    ['.'].intercalate (label :: labels) = label ++ (labels.map ('.' :: ·)).flatten := by
  induction labels generalizing label with
  | nil => simp
  | cons next labels induction =>
      rw [List.intercalate_cons_cons, induction, List.map_cons, List.flatten_cons]
      simp

theorem spells_domain : (seqs domain).Spells DomainText := by
  have more := ((spells_sign '.').cons spells_label).star
  refine (spells_label.append (more.cons spells_nil)).congr fun s => ?_
  constructor
  · rintro ⟨label, _, rfl, label_text, _, _, rfl, ⟨parts, parts_mem, rfl⟩, rfl⟩
    -- Each of the parts is a dot and a label.
    have parts_mem : ∀ part ∈ parts, ∃ label, LabelText label ∧ '.' :: label = part := by
      intro part part_mem
      obtain ⟨_, label, rfl, rfl, label_text⟩ := parts_mem part part_mem
      exact ⟨label, label_text, rfl⟩
    obtain ⟨labels, labels_text, rfl⟩ : ∃ labels : List (List Char),
        (∀ label ∈ labels, LabelText label) ∧ labels.map ('.' :: ·) = parts := by
      refine ⟨parts.map List.tail, List.forall_mem_map.mpr fun part part_mem => ?_, ?_⟩
      · obtain ⟨label, label_text, rfl⟩ := parts_mem part part_mem
        exact label_text
      · rw [List.map_map]
        refine (List.map_congr_left fun part part_mem => ?_).trans (List.map_id parts)
        obtain ⟨label, -, rfl⟩ := parts_mem part part_mem
        rfl
    rw [List.append_nil, ← intercalate_cons_eq]
    exact .joined (List.cons_ne_nil _ _) (List.forall_mem_cons.mpr ⟨label_text, labels_text⟩)
  · rintro @⟨labels, nonempty, labels_text⟩
    obtain ⟨label, labels, rfl⟩ := List.exists_cons_of_ne_nil nonempty
    obtain ⟨label_text, labels_text⟩ := List.forall_mem_cons.mp labels_text
    refine ⟨label, _, intercalate_cons_eq label labels, label_text, _, [],
      (List.append_nil _).symm, ⟨labels.map ('.' :: ·), ?_, rfl⟩, rfl⟩
    exact List.forall_mem_map.mpr fun label label_mem =>
      ⟨['.'], label, rfl, rfl, labels_text label label_mem⟩

theorem spells_addressParts : (seqs addressParts).Spells AddressText := by
  have name := spells_long_run nameClass 25 1
  refine (name.cons ((spells_sign '@').cons spells_domain)).congr fun s => ?_
  simp only [nameClass_iff]
  constructor
  · rintro ⟨name, _, rfl, ⟨length_pos, name_char⟩, _, domain, rfl, rfl, domain_text⟩
    exact .address (List.length_pos_iff.mp length_pos) name_char domain_text
  · rintro ⟨name_ne, name_char, domain_text⟩
    exact ⟨_, _, rfl, ⟨List.length_pos_iff.mpr name_ne, name_char⟩, _, _, rfl, rfl, domain_text⟩

/-- The rule for email addresses accepts what a rule with their pattern accepts. -/
theorem accepts_regex_emailPattern (value : Value) :
    (regex emailPattern).accepts value = email.accepts value := by
  have same : ∀ s : String, emailPattern.matchesIn s = Grammar.isEmail s := by
    intro s
    rw [Bool.eq_iff_iff, isEmail_iff]
    exact matchesIn_anchored_iff spells_addressParts s.toList
  rw [accepts, accepts, funext same]

/-! ## Dates and times -/

def decimalDigits (least most : Nat) : Expr :=
  .repeated (.char Text.isDecimalDigit 162) least (some most)

def fractionPart : Expr := .repeated (seqs [sign '.', decimalDigits 1 6]) 0 (some 1)

def secondPart : Expr := .repeated (seqs [sign ':', decimalDigits 2 2, fractionPart]) 0 (some 1)

def offsetMinutePart : Expr :=
  .repeated (seqs [.repeated (sign ':') 0 (some 1), decimalDigits 2 2]) 0 (some 1)

def offsetPart : Expr :=
  .repeated (.alt (sign 'Z')
    (seqs [.char (eitherClass '+' '-') 4, decimalDigits 2 2, offsetMinutePart])) 0 (some 1)

def timePart : Expr :=
  .repeated (seqs [.char (eitherClass 'T' ' ') 4, decimalDigits 2 2, sign ':', decimalDigits 2 2,
    secondPart, offsetPart]) 0 (some 1)

def isoDatetimeParts : List Expr :=
  [decimalDigits 4 4, sign '-', decimalDigits 2 2, sign '-', decimalDigits 2 2, timePart]

set_option maxRecDepth 20000 in
/-- The pattern of dates and times. -/
def isoDatetimePattern : Pattern where
  text := "^(\\d\x7b4\x7d)-(\\d\x7b2\x7d)-(\\d\x7b2\x7d)" ++
    "(?:[T ](\\d\x7b2\x7d):(\\d\x7b2\x7d)(?::(\\d\x7b2\x7d)(?:\\.\\d\x7b1,6\x7d)?)?" ++
    "(Z|[+-](\\d\x7b2\x7d)(?::?(\\d\x7b2\x7d))?)?)?$"
  expr := seqs (.look .textStart :: isoDatetimeParts ++ [.look .textEnd])
  expr_of_text := by with_unfolding_all rfl

theorem spells_decimalDigits (count : Nat) :
    (decimalDigits count count).Spells (Digits Text.isDecimalDigit count) := by
  refine (spells_run Text.isDecimalDigit 162 (Nat.le_refl count)).congr fun s => ?_
  rw [Digits, ← and_assoc, ← Nat.le_antisymm_iff, eq_comm]

theorem spells_fractionPart : fractionPart.Spells (FractionText Text.isDecimalDigit) := by
  have digits := spells_run Text.isDecimalDigit 162 (by decide : 1 ≤ 6)
  refine ((spells_sign '.').cons (digits.cons spells_nil)).optional.congr fun s => ?_
  constructor
  · rintro (rfl | ⟨_, _, rfl, rfl, digits, _, rfl, ⟨length_pos, length_le, all_digits⟩, rfl⟩)
    · exact .absent
    · rw [List.append_nil, List.singleton_append]
      exact .digits length_pos length_le all_digits
  · intro fraction_text
    cases fraction_text with
    | absent => exact .inl rfl
    | digits length_pos length_le all_digits =>
        exact .inr ⟨['.'], _, rfl, rfl, _, [], (List.append_nil _).symm,
          ⟨length_pos, length_le, all_digits⟩, rfl⟩

theorem spells_secondPart : secondPart.Spells fun s => ∃ second, SecondLayout second s := by
  have second := (spells_sign ':').cons ((spells_decimalDigits 2).cons
    (spells_fractionPart.cons spells_nil))
  refine second.optional.congr fun s => ?_
  constructor
  · rintro (rfl | ⟨_, _, rfl, rfl, _, _, rfl, second_digits, _, _, rfl, fraction_text, rfl⟩)
    · exact ⟨_, .absent⟩
    · rw [List.append_nil, List.singleton_append]
      exact ⟨_, .second second_digits fraction_text⟩
  · rintro ⟨_, layout⟩
    cases layout with
    | absent => exact .inl rfl
    | second second_digits fraction_text =>
        exact .inr ⟨[':'], _, rfl, rfl, _, _, rfl, second_digits, _, [],
          (List.append_nil _).symm, fraction_text, rfl⟩

theorem spells_offsetMinutePart : offsetMinutePart.Spells fun s =>
    s = [] ∨ ∃ colon ∈ [[], [':']], ∃ minute, s = colon ++ minute ∧
      Digits Text.isDecimalDigit 2 minute := by
  have minute := (spells_sign ':').optional.cons ((spells_decimalDigits 2).cons spells_nil)
  refine minute.optional.congr fun s => or_congr_right ?_
  constructor
  · rintro ⟨colon, _, rfl, colon_mem, minute, _, rfl, minute_digits, rfl⟩
    rw [List.append_nil]
    exact ⟨colon, by simpa using colon_mem, minute, rfl, minute_digits⟩
  · rintro ⟨colon, colon_mem, minute, rfl, minute_digits⟩
    exact ⟨colon, _, rfl, by simpa using colon_mem, minute, [], (List.append_nil _).symm,
      minute_digits, rfl⟩

theorem spells_offsetPart : offsetPart.Spells fun s => ∃ offset, OffsetLayout offset s := by
  have signed := (spells_eitherClass '+' '-' 4).cons ((spells_decimalDigits 2).cons
    (spells_offsetMinutePart.cons spells_nil))
  refine ((spells_sign 'Z').alt signed).optional.congr fun s => ?_
  constructor
  · rintro (rfl | rfl | ⟨_, _, rfl, ⟨sign, rfl, sign_mem⟩, hour, _, rfl, hour_digits, _, _, rfl,
      rfl | ⟨colon, colon_mem, minute, rfl, minute_digits⟩, rfl⟩)
    · exact ⟨_, .absent⟩
    · exact ⟨_, .zulu⟩
    · rw [List.append_nil, List.append_nil, List.singleton_append]
      exact ⟨_, .hour sign_mem hour_digits⟩
    · rw [List.append_nil, List.singleton_append]
      exact ⟨_, .minute sign_mem hour_digits colon_mem minute_digits⟩
  · rintro ⟨_, layout⟩
    cases layout with
    | absent => exact .inl rfl
    | zulu => exact .inr (.inl rfl)
    | @hour sign hour sign_mem hour_digits =>
        exact .inr (.inr ⟨[sign], hour, rfl, ⟨sign, rfl, sign_mem⟩, hour, [],
          (List.append_nil hour).symm, hour_digits, [], [], rfl, .inl rfl, rfl⟩)
    | @minute sign hour colon minute sign_mem hour_digits colon_mem minute_digits =>
        exact .inr (.inr ⟨[sign], _, rfl, ⟨sign, rfl, sign_mem⟩, hour, _, rfl, hour_digits,
          colon ++ minute, [], (List.append_nil _).symm,
          .inr ⟨colon, colon_mem, minute, rfl, minute_digits⟩, rfl⟩)

theorem spells_timePart : timePart.Spells fun s => ∃ time, TimePartLayout time s := by
  have time := (spells_eitherClass 'T' ' ' 4).cons ((spells_decimalDigits 2).cons
    ((spells_sign ':').cons ((spells_decimalDigits 2).cons (spells_secondPart.cons
      (spells_offsetPart.cons spells_nil)))))
  refine time.optional.congr fun s => ?_
  constructor
  · rintro (rfl | ⟨_, _, rfl, ⟨separator, rfl, separator_mem⟩, hour, _, rfl, hour_digits, _, _,
      rfl, rfl, minute, _, rfl, minute_digits, seconds, _, rfl, ⟨second, second_layout⟩, distance,
      _, rfl, ⟨offset, offset_layout⟩, rfl⟩)
    · exact ⟨_, .absent⟩
    · rw [List.append_nil, List.singleton_append, List.singleton_append]
      exact ⟨_, .time separator_mem (.time hour_digits minute_digits second_layout offset_layout)⟩
  · rintro ⟨_, layout⟩
    cases layout with
    | absent => exact .inl rfl
    | @time separator _ _ separator_mem time_layout =>
        cases time_layout with
        | time hour_digits minute_digits second_layout offset_layout =>
            exact .inr ⟨[separator], _, rfl, ⟨separator, rfl, separator_mem⟩, _, _, rfl,
              hour_digits, [':'], _, rfl, rfl, _, _, rfl, minute_digits, _, _, rfl,
              ⟨_, second_layout⟩, _, [], (List.append_nil _).symm, ⟨_, offset_layout⟩, rfl⟩

theorem spells_isoDatetimeParts : (seqs isoDatetimeParts).Spells fun s => ∃ d, Layout d s := by
  have parts := (spells_decimalDigits 4).cons ((spells_sign '-').cons
    ((spells_decimalDigits 2).cons ((spells_sign '-').cons ((spells_decimalDigits 2).cons
      (spells_timePart.cons spells_nil)))))
  refine parts.congr fun s => ?_
  constructor
  · rintro ⟨year, _, rfl, year_digits, _, _, rfl, rfl, month, _, rfl, month_digits, _, _, rfl, rfl,
      day, _, rfl, day_digits, _, _, rfl, ⟨time, time_part⟩, rfl⟩
    rw [List.append_nil, List.singleton_append, List.singleton_append]
    exact ⟨_, .date year_digits month_digits day_digits time_part⟩
  · rintro ⟨_, year_digits, month_digits, day_digits, time_part⟩
    exact ⟨_, _, rfl, year_digits, ['-'], _, rfl, rfl, _, _, rfl, month_digits, ['-'], _, rfl, rfl,
      _, _, rfl, day_digits, _, [], (List.append_nil _).symm, ⟨_, time_part⟩, rfl⟩

/-- A rule with the pattern of dates and times accepts the texts that are laid out as parts, and the
rule for dates and times those of them whose parts are valid. -/
theorem accepts_regex_isoDatetimePattern (s : String) :
    ((regex isoDatetimePattern).accepts (.str s) = true ↔ ∃ d, Layout d s.toList) ∧
    (isoDatetime.accepts (.str s) = true ↔
      (regex isoDatetimePattern).accepts (.str s) = true ∧
        ∀ d, Layout d s.toList → d.isValid = true) := by
  have matches_iff : isoDatetimePattern.matchesIn s = true ↔ ∃ d, Layout d s.toList :=
    matchesIn_anchored_iff spells_isoDatetimeParts s.toList
  have accepts_iff : isoDatetime.accepts (.str s) = true ↔
      ∃ d, Layout d s.toList ∧ d.isValid = true := by
    simp only [← ofChars?_eq_some_iff, ← Option.any_eq_true]
    rfl
  rw [accepts_regex, matches_iff, accepts_iff]
  refine ⟨Iff.rfl, ?_⟩
  constructor
  · rintro ⟨d, layout, valid⟩
    exact ⟨⟨d, layout⟩, fun e other => layout.unique other ▸ valid⟩
  · rintro ⟨⟨d, layout⟩, valid⟩
    exact ⟨d, layout, valid d layout⟩

end RequestParams.Rule
