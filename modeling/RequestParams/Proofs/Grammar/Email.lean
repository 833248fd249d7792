import Mathlib.Data.List.TakeDrop
import Mathlib.Tactic.Common
import RequestParams.Rule

/-!
# The language of email addresses

`AddressText` is the grammar of email addresses: a name, an at sign, and labels joined by single
dots. Neither names nor labels hold an at sign and labels hold no dot, so that the sign and the dots
can be found by looking for them, which is how an address is read.
-/

namespace RequestParams.Grammar

namespace Email

/-! ## The grammar -/

/-- A letter or a digit of ASCII. -/
def IsLetterOrDigit (c : Char) : Prop :=
  'a' ≤ c ∧ c ≤ 'z' ∨ 'A' ≤ c ∧ c ≤ 'Z' ∨ '0' ≤ c ∧ c ≤ '9'

/-- A character that may stand in a name. -/
def IsNameChar (c : Char) : Prop :=
  IsLetterOrDigit c ∨ c ∈ ".!#$%&'*+/=?^_`\x7b|\x7d~-".toList

/-- Up to 63 letters, digits and hyphens, without a hyphen at either end. -/
structure LabelText (label : List Char) : Prop where
  /-- There is a character. -/
  length_pos : 1 ≤ label.length
  /-- There are not too many. -/
  length_le : label.length ≤ 63
  /-- There is nothing else. -/
  label_char : ∀ c ∈ label, IsLetterOrDigit c ∨ c = '-'
  /-- The first character is no hyphen. -/
  first_ne : ∀ rest, label ≠ '-' :: rest
  /-- The last character is no hyphen. -/
  last_ne : ∀ front, label ≠ front ++ ['-']

/-- One or more labels joined by single dots. -/
inductive DomainText : List Char → Prop
  | joined {labels : List (List Char)} (nonempty : labels ≠ [])
      (label_text : ∀ label ∈ labels, LabelText label) : DomainText (['.'].intercalate labels)

/-- A name and a domain on the two sides of an at sign. -/
inductive AddressText : List Char → Prop
  | address {name domain : List Char} (name_ne : name ≠ []) (name_char : ∀ c ∈ name, IsNameChar c)
      (domain_text : DomainText domain) : AddressText (name ++ '@' :: domain)

/-! ## Characters -/

theorem isAlphanum_iff (c : Char) : c.isAlphanum = true ↔ IsLetterOrDigit c := by
  have upper : c.isUpper = true ↔ 'A' ≤ c ∧ c ≤ 'Z' := decide_eq_true_iff
  have lower : c.isLower = true ↔ 'a' ≤ c ∧ c ≤ 'z' :=
    Bool.and_eq_true_iff.trans (and_congr decide_eq_true_iff decide_eq_true_iff)
  have digit : c.isDigit = true ↔ '0' ≤ c ∧ c ≤ '9' :=
    Bool.and_eq_true_iff.trans (and_congr decide_eq_true_iff decide_eq_true_iff)
  have alphanum : c.isAlphanum = (c.isUpper || c.isLower || c.isDigit) := rfl
  rw [alphanum, Bool.or_eq_true, Bool.or_eq_true, upper, lower, digit, IsLetterOrDigit]
  tauto

theorem isLocalChar_iff (c : Char) : isLocalChar c = true ↔ IsNameChar c := by
  rw [isLocalChar, Bool.or_eq_true, isAlphanum_iff, List.contains_iff_mem]
  rfl

theorem isLabelChar_iff (c : Char) : isLabelChar c = true ↔ IsLetterOrDigit c ∨ c = '-' := by
  rw [isLabelChar, Bool.or_eq_true, isAlphanum_iff, beq_iff_eq]

theorem isLabel_iff (label : List Char) : isLabel label = true ↔ LabelText label := by
  simp only [isLabel, Bool.and_eq_true, decide_eq_true_eq, List.all_eq_true, isLabelChar_iff,
    bne_iff_ne, ne_eq, List.head?_eq_some_iff, List.getLast?_eq_some_iff, not_exists]
  constructor
  · rintro ⟨⟨⟨⟨length_pos, length_le⟩, label_char⟩, first_ne⟩, last_ne⟩
    exact ⟨length_pos, length_le, label_char, first_ne, last_ne⟩
  · rintro ⟨length_pos, length_le, label_char, first_ne, last_ne⟩
    exact ⟨⟨⟨⟨length_pos, length_le⟩, label_char⟩, first_ne⟩, last_ne⟩

/-- Neither signs of control nor blanks nor characters beyond ASCII are among these. -/
def IsVisibleAscii (c : Char) : Prop := 33 ≤ c.toNat ∧ c.toNat ≤ 126

theorem IsLetterOrDigit.isVisibleAscii {c : Char} (letter_or_digit : IsLetterOrDigit c) :
    IsVisibleAscii c := by
  simp only [IsLetterOrDigit, Char.le_def, UInt32.le_iff_toNat_le] at letter_or_digit
  have code_eq : c.toNat = c.val.toNat := rfl
  rw [IsVisibleAscii, code_eq]
  rcases letter_or_digit with ⟨above, below⟩ | ⟨above, below⟩ | ⟨above, below⟩
  · change 97 ≤ c.val.toNat at above
    change c.val.toNat ≤ 122 at below
    omega
  · change 65 ≤ c.val.toNat at above
    change c.val.toNat ≤ 90 at below
    omega
  · change 48 ≤ c.val.toNat at above
    change c.val.toNat ≤ 57 at below
    omega

theorem IsNameChar.isVisibleAscii {c : Char} (name_char : IsNameChar c) : IsVisibleAscii c := by
  have signs : ∀ sign ∈ ".!#$%&'*+/=?^_`\x7b|\x7d~-".toList, IsVisibleAscii sign := by
    simp [IsVisibleAscii]
  rcases name_char with letter_or_digit | sign
  · exact letter_or_digit.isVisibleAscii
  · exact signs c sign

theorem not_isLetterOrDigit_at : ¬IsLetterOrDigit '@' := by
  unfold IsLetterOrDigit
  decide

theorem not_isLetterOrDigit_dot : ¬IsLetterOrDigit '.' := by
  unfold IsLetterOrDigit
  decide

theorem IsNameChar.ne_at {c : Char} (name_char : IsNameChar c) : c ≠ '@' := by
  rintro rfl
  rcases name_char with letter_or_digit | sign
  · exact not_isLetterOrDigit_at letter_or_digit
  · exact absurd sign (by decide)

/-- No name holds the sign that ends it. -/
theorem at_not_mem_of_isNameChar {name : List Char} (name_char : ∀ c ∈ name, IsNameChar c) :
    '@' ∉ name :=
  fun at_mem => (name_char '@' at_mem).ne_at rfl

namespace LabelText

variable {label : List Char}

theorem at_not_mem (label_text : LabelText label) : '@' ∉ label := by
  intro at_mem
  rcases label_text.label_char _ at_mem with letter_or_digit | hyphen
  · exact not_isLetterOrDigit_at letter_or_digit
  · cases hyphen

theorem dot_not_mem (label_text : LabelText label) : '.' ∉ label := by
  intro dot_mem
  rcases label_text.label_char _ dot_mem with letter_or_digit | hyphen
  · exact not_isLetterOrDigit_dot letter_or_digit
  · cases hyphen

theorem ne_nil (label_text : LabelText label) : label ≠ [] := by
  rintro rfl
  exact absurd label_text.length_pos (by decide)

theorem isVisibleAscii (label_text : LabelText label) : ∀ c ∈ label, IsVisibleAscii c := by
  intro c c_mem
  rcases label_text.label_char c c_mem with letter_or_digit | rfl
  · exact letter_or_digit.isVisibleAscii
  · exact ⟨by decide, by decide⟩

end LabelText

/-! ## Reading -/

theorem pieces_eq_splitOn (separator : Char) (s : List Char) :
    pieces separator s = s.splitOn separator := by
  induction s with
  | nil => rfl
  | cons c s induction =>
      rw [List.splitOn_cons_eq_if_modifyHead, pieces, induction]
      by_cases here : c = separator
      · simp [here]
      · rw [if_neg here, if_neg (by simpa using here)]
        cases pieces_eq : s.splitOn separator with
        | nil => exact absurd pieces_eq (List.splitOn_ne_nil separator s)
        | cons piece more => rfl

theorem domainText_iff (domain : List Char) :
    DomainText domain ↔ ∀ label ∈ domain.splitOn '.', LabelText label := by
  constructor
  · rintro ⟨nonempty, label_text⟩
    have dot_free := fun label label_mem => (label_text label label_mem).dot_not_mem
    rwa [List.splitOn_intercalate '.' dot_free nonempty]
  · intro label_text
    have joined := DomainText.joined (List.splitOn_ne_nil '.' domain) label_text
    rwa [List.intercalate_splitOn] at joined

/-- What holds of a dot and of the characters of labels holds of the characters of a domain. -/
theorem forall_mem_intercalate (holds : Char → Prop) (dot : holds '.')
    {labels : List (List Char)} (each : ∀ label ∈ labels, ∀ c ∈ label, holds c) :
    ∀ c ∈ ['.'].intercalate labels, holds c := by
  induction labels with
  | nil => exact List.forall_mem_nil holds
  | cons label labels induction =>
      rw [List.forall_mem_cons] at each
      cases labels with
      | nil =>
          rw [List.intercalate_singleton]
          exact each.1
      | cons next labels =>
          rw [List.intercalate_cons_cons, List.forall_mem_append, List.forall_mem_append]
          exact ⟨⟨each.1, List.forall_mem_singleton.mpr dot⟩, induction each.2⟩

theorem DomainText.at_not_mem {domain : List Char} (domain_text : DomainText domain) :
    '@' ∉ domain := by
  cases domain_text with
  | joined nonempty label_text =>
      intro at_mem
      refine forall_mem_intercalate (· ≠ '@') (by decide) ?_ '@' at_mem rfl
      rintro label label_mem c c_mem rfl
      exact (label_text label label_mem).at_not_mem c_mem

/-- An at sign that the text before it is free of is the one that an address is cut at. -/
theorem span_at {name domain : List Char} (free : '@' ∉ name) :
    (name ++ '@' :: domain).span (· != '@') = (name, '@' :: domain) := by
  have kept : ∀ c ∈ name, (c != '@') = true := by
    intro c c_mem
    rw [bne_iff_ne]
    rintro rfl
    exact free c_mem
  rw [List.span_eq_takeWhile_dropWhile, List.takeWhile_append_of_pos kept,
    List.dropWhile_append_of_pos kept]
  simp

theorem eq_of_span_at {s name domain : List Char} {c : Char}
    (cut : s.span (· != '@') = (name, c :: domain)) : s = name ++ '@' :: domain := by
  rw [List.span_eq_takeWhile_dropWhile, Prod.mk.injEq] at cut
  obtain ⟨name_eq, rest_eq⟩ := cut
  have found := List.head?_dropWhile_not (· != '@') s
  rw [rest_eq] at found
  obtain rfl : c = '@' := by simpa using found
  rw [← name_eq, ← rest_eq, List.takeWhile_append_dropWhile]

theorem isEmail_iff (s : String) : isEmail s = true ↔ AddressText s.toList := by
  have reads : ∀ name domain : List Char,
      (!name.isEmpty && name.all isLocalChar && (pieces '.' domain).all isLabel) = true ↔
        (name ≠ [] ∧ ∀ c ∈ name, IsNameChar c) ∧ DomainText domain := by
    intro name domain
    rw [pieces_eq_splitOn, domainText_iff]
    simp only [Bool.and_eq_true, Bool.not_eq_true', List.isEmpty_eq_false_iff, List.all_eq_true,
      isLocalChar_iff, isLabel_iff, ne_eq]
  rw [isEmail]
  generalize s.toList = chars
  constructor
  · intro read
    split at read
    · rename_i name c domain cut
      obtain ⟨⟨name_ne, name_char⟩, domain_text⟩ := (reads name domain).mp read
      rw [eq_of_span_at cut]
      exact .address name_ne name_char domain_text
    · cases read
  · rintro @⟨name, domain, name_ne, name_char, domain_text⟩
    rw [span_at (at_not_mem_of_isNameChar name_char)]
    exact (reads name domain).mpr ⟨⟨name_ne, name_char⟩, domain_text⟩

/-! ## What an address is made of -/

theorem AddressText.isVisibleAscii {s : List Char} (address_text : AddressText s) :
    ∀ c ∈ s, IsVisibleAscii c := by
  cases address_text with
  | address name_ne name_char domain_text =>
      cases domain_text with
      | joined nonempty label_text =>
          rw [List.forall_mem_append, List.forall_mem_cons]
          refine ⟨fun c c_mem => (name_char c c_mem).isVisibleAscii, ⟨by decide, by decide⟩,
            forall_mem_intercalate IsVisibleAscii ⟨by decide, by decide⟩ ?_⟩
          exact fun label label_mem => (label_text label label_mem).isVisibleAscii

theorem isBlank_of_isVisibleAscii {c : Char} (visible : IsVisibleAscii c) :
    Text.isBlank c = false := by
  obtain ⟨above, below⟩ := visible
  simp only [Text.isBlank, Bool.or_eq_false_iff, Bool.and_eq_false_iff, decide_eq_false_iff_not,
    beq_eq_false_iff_ne]
  omega

theorem AddressText.count_at {s : List Char} (address_text : AddressText s) : s.count '@' = 1 := by
  cases address_text with
  | address name_ne name_char domain_text =>
      have name_free := List.count_eq_zero.mpr (at_not_mem_of_isNameChar name_char)
      have domain_free := List.count_eq_zero.mpr domain_text.at_not_mem
      rw [List.count_append, List.count_cons_self, name_free, domain_free]

/-- Wherever an address is cut at an at sign, what follows are labels with something in them. -/
theorem AddressText.labels_ne_nil {s name domain : List Char} (address_text : AddressText s)
    (cut : s = name ++ '@' :: domain) : ∀ label ∈ domain.splitOn '.', label ≠ [] := by
  have one_at := address_text.count_at
  rw [cut, List.count_append, List.count_cons_self] at one_at
  have name_free : '@' ∉ name := List.count_eq_zero.mp (by omega)
  cases address_text with
  | @address own_name own_domain name_ne name_char domain_text =>
      have spans : (own_name ++ '@' :: own_domain).span (· != '@') =
          (own_name, '@' :: own_domain) := span_at (at_not_mem_of_isNameChar name_char)
      rw [cut, span_at name_free, Prod.mk.injEq, List.cons.injEq] at spans
      rw [spans.2.2]
      intro label label_mem
      exact ((domainText_iff own_domain).mp domain_text label label_mem).ne_nil

end Email

end RequestParams.Grammar

namespace RequestParams.Rule

open Grammar.Email

/-- A text is an email address exactly if it is a name of letters, digits and certain signs, an at
sign, and labels joined by single dots, each of 1 to 63 letters, digits and hyphens without a hyphen
at either end. So an address has one at sign, nothing blank and nothing beyond ASCII in it, and no
label without a character. The same is true of the pattern of email addresses by
`accepts_regex_emailPattern`. -/
theorem accepts_email_iff_address (s : String) :
    (email.accepts (.str s) = true ↔ AddressText s.toList) ∧
    (email.accepts (.str s) = true →
      s.toList.count '@' = 1 ∧
      (∀ c ∈ s.toList, c.toNat < 128 ∧ Text.isBlank c = false) ∧
      ∀ name domain, s.toList = name ++ '@' :: domain →
        ∀ label ∈ domain.splitOn '.', label ≠ []) := by
  have accepts_iff : email.accepts (.str s) = true ↔ AddressText s.toList := isEmail_iff s
  rw [accepts_iff]
  refine ⟨Iff.rfl, fun address_text => ⟨address_text.count_at, fun c c_mem => ?_,
    fun name domain cut => address_text.labels_ne_nil cut⟩⟩
  have visible := address_text.isVisibleAscii c c_mem
  exact ⟨Nat.lt_of_le_of_lt visible.2 (by decide), isBlank_of_isVisibleAscii visible⟩

/-- A name may hold a sign, and a domain may have any number of labels. -/
theorem accepts_email_iff_address_tagged :
    email.accepts (.str "user+tag@example.co.uk") = true ∧
      AddressText "user+tag@example.co.uk".toList ∧
      "user+tag@example.co.uk".toList.count '@' = 1 := by
  have accepted : email.accepts (.str "user+tag@example.co.uk") = true := rfl
  obtain ⟨accepts_iff, told⟩ := accepts_email_iff_address "user+tag@example.co.uk"
  exact ⟨accepted, accepts_iff.mp accepted, (told accepted).1⟩

end RequestParams.Rule
