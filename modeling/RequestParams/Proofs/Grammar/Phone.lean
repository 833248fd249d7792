import RequestParams.Proofs.Text.Digits
import RequestParams.Rule

/-!
# The language of phone numbers

`PhoneText` is the grammar of phone numbers: an optional country code and three groups of digits
with at most one separator between neighbours. The groups vary in length, so that a text can have
several readings, but digits in a row can be cut into groups exactly if their number is between the
sums of the bounds. Without its separators a phone number is therefore a phone number, and the phone
numbers without separators are told by their number of digits alone.
-/

namespace RequestParams.Grammar

open Text

namespace Phone

/-! ## The grammar -/

/-- ASCII digits, of which there are between `least` and `most`. -/
structure DigitRun (least most : Nat) (s : List Char) : Prop where
  /-- There are enough of them. -/
  least_le : least ≤ s.length
  /-- There are not too many. -/
  le_most : s.length ≤ most
  /-- There is nothing else. -/
  digit : ∀ c ∈ s, isDigit c = true

/-- What may stand between two groups. -/
def separators : List (List Char) := [[], [' '], ['-']]

/-- Nothing, or a plus, one to three digits and a separator. -/
inductive CountryText : List Char → Prop
  | absent : CountryText []
  | code {digits separator : List Char} (run : DigitRun 1 3 digits)
      (separator_mem : separator ∈ separators) : CountryText ('+' :: (digits ++ separator))

/-- A country code and three groups of digits. -/
inductive PhoneText : List Char → Prop
  | groups {country area first exchange second subscriber : List Char}
      (country_text : CountryText country) (area_run : DigitRun 2 4 area)
      (first_mem : first ∈ separators) (exchange_run : DigitRun 3 4 exchange)
      (second_mem : second ∈ separators) (subscriber_run : DigitRun 4 4 subscriber) :
      PhoneText (country ++ (area ++ (first ++ (exchange ++ (second ++ subscriber)))))

/-! ## What the reader leaves -/

theorem mem_afterDigits_iff {least most : Nat} {s rest : List Char} :
    rest ∈ afterDigits least most s ↔
      ∃ digits, s = digits ++ rest ∧ DigitRun least most digits := by
  simp only [afterDigits, List.mem_map, List.mem_filter, List.mem_range, Bool.and_eq_true,
    decide_eq_true_eq, List.all_eq_true]
  constructor
  · rintro ⟨count, ⟨count_lt, ⟨least_le, count_le⟩, digit⟩, rfl⟩
    have length_eq : (s.take count).length = count := List.length_take_of_le count_le
    exact ⟨s.take count, (List.take_append_drop count s).symm, by omega, by omega, digit⟩
  · rintro ⟨digits, rfl, run⟩
    refine ⟨digits.length, ⟨Nat.lt_succ_of_le run.le_most, ⟨run.least_le, ?_⟩, ?_⟩,
      List.drop_left⟩
    · rw [List.length_append]
      exact Nat.le_add_right _ _
    · rw [List.take_left]
      exact run.digit

theorem mem_afterSeparator_iff {s rest : List Char} :
    rest ∈ afterSeparator s ↔ ∃ separator ∈ separators, s = separator ++ rest := by
  simp only [separators, List.mem_cons, List.not_mem_nil, or_false, exists_eq_or_imp,
    exists_eq_left, List.nil_append, List.singleton_append]
  unfold afterSeparator
  split
  · simp [eq_comm]
  · simp [eq_comm]
  · rename_i not_space not_hyphen
    have neither : ¬(s = ' ' :: rest ∨ s = '-' :: rest) := by
      rintro (space | hyphen)
      · exact not_space rest space
      · exact not_hyphen rest hyphen
    rw [List.mem_singleton, or_iff_left neither, eq_comm]

theorem mem_afterCountry_iff {s rest : List Char} :
    rest ∈ afterCountry s ↔ ∃ country, CountryText country ∧ s = country ++ rest := by
  unfold afterCountry
  split
  · rename_i after
    simp only [List.mem_cons, List.mem_flatMap, mem_afterDigits_iff, mem_afterSeparator_iff]
    constructor
    · rintro (rfl | ⟨_, ⟨digits, rfl, run⟩, separator, separator_mem, rfl⟩)
      · exact ⟨[], .absent, rfl⟩
      · exact ⟨_, .code run separator_mem, by simp⟩
    · rintro ⟨_, country_text, split⟩
      cases country_text with
      | absent => exact .inl split.symm
      | @code digits separator run separator_mem =>
          rw [List.cons_append, List.cons.injEq, List.append_assoc] at split
          exact .inr ⟨_, ⟨digits, split.2, run⟩, separator, separator_mem, rfl⟩
  · rename_i not_plus
    rw [List.mem_singleton]
    constructor
    · rintro rfl
      exact ⟨[], .absent, rfl⟩
    · rintro ⟨_, country_text, rfl⟩
      cases country_text with
      | absent => rfl
      | code => exact absurd rfl (not_plus _)

theorem isPhone_iff (s : String) : isPhone s = true ↔ PhoneText s.toList := by
  simp only [isPhone, List.any_eq_true, List.isEmpty_iff, exists_eq_right, List.mem_flatMap,
    mem_afterDigits_iff, mem_afterSeparator_iff, mem_afterCountry_iff]
  constructor
  · rintro ⟨_, ⟨_, ⟨_, ⟨_, ⟨_, ⟨country, country_text, split⟩, area, rfl, area_run⟩,
      first, first_mem, rfl⟩, exchange, rfl, exchange_run⟩, second, second_mem, rfl⟩,
      subscriber, rfl, subscriber_run⟩
    rw [split, List.append_nil]
    exact .groups country_text area_run first_mem exchange_run second_mem subscriber_run
  · generalize s.toList = chars
    rintro ⟨country_text, area_run, first_mem, exchange_run, second_mem, subscriber_run⟩
    exact ⟨_, ⟨_, ⟨_, ⟨_, ⟨_, ⟨_, country_text, rfl⟩, _, rfl, area_run⟩, _, first_mem, rfl⟩, _, rfl,
      exchange_run⟩, _, second_mem, rfl⟩, _, (List.append_nil _).symm, subscriber_run⟩

/-! ## Digits in a row -/

theorem DigitRun.append {least most least' most' : Nat} {s t : List Char}
    (run : DigitRun least most s) (run' : DigitRun least' most' t) :
    DigitRun (least + least') (most + most') (s ++ t) := by
  constructor
  · rw [List.length_append]
    exact Nat.add_le_add run.least_le run'.least_le
  · rw [List.length_append]
    exact Nat.add_le_add run.le_most run'.le_most
  · rw [List.forall_mem_append]
    exact ⟨run.digit, run'.digit⟩

/-- Digits can be cut into two groups exactly if there are as many as two groups may have. -/
theorem digitRun_add_iff {least most least' most' : Nat} (le : least ≤ most) (le' : least' ≤ most')
    (s : List Char) :
    DigitRun (least + least') (most + most') s ↔
      ∃ front back, s = front ++ back ∧ DigitRun least most front ∧ DigitRun least' most' back := by
  constructor
  · rintro ⟨least_le, le_most, digit⟩
    -- The first group takes all it may, short of what the second one needs.
    obtain ⟨cut, cut_eq⟩ : ∃ cut, cut = min most (s.length - least') := ⟨_, rfl⟩
    have front_length : (s.take cut).length = cut := List.length_take_of_le (by omega)
    have back_length : (s.drop cut).length = s.length - cut := List.length_drop
    refine ⟨s.take cut, s.drop cut, (List.take_append_drop cut s).symm,
      ⟨by omega, by omega, fun c c_mem => digit c (List.mem_of_mem_take c_mem)⟩,
      ⟨by omega, by omega, fun c c_mem => digit c (List.mem_of_mem_drop c_mem)⟩⟩
  · rintro ⟨front, back, rfl, run, run'⟩
    exact run.append run'

/-- Nine to twelve digits are the three groups. -/
theorem digitRun_groups_iff (s : List Char) :
    DigitRun 9 12 s ↔
      ∃ area exchange subscriber, s = area ++ (exchange ++ subscriber) ∧
        DigitRun 2 4 area ∧ DigitRun 3 4 exchange ∧ DigitRun 4 4 subscriber := by
  have first_cut : DigitRun 9 12 s ↔
      ∃ area rest, s = area ++ rest ∧ DigitRun 2 4 area ∧ DigitRun 7 8 rest :=
    digitRun_add_iff (show 2 ≤ 4 by decide) (show 7 ≤ 8 by decide) s
  have second_cut : ∀ rest, DigitRun 7 8 rest ↔ ∃ exchange subscriber,
      rest = exchange ++ subscriber ∧ DigitRun 3 4 exchange ∧ DigitRun 4 4 subscriber :=
    digitRun_add_iff (show 3 ≤ 4 by decide) (show 4 ≤ 4 by decide)
  simp only [first_cut, second_cut]
  constructor
  · rintro ⟨area, _, rfl, area_run, exchange, subscriber, rfl, exchange_run, subscriber_run⟩
    exact ⟨area, exchange, subscriber, rfl, area_run, exchange_run, subscriber_run⟩
  · rintro ⟨area, exchange, subscriber, rfl, area_run, exchange_run, subscriber_run⟩
    exact ⟨area, _, rfl, area_run, exchange, subscriber, rfl, exchange_run, subscriber_run⟩

/-! ## Phone numbers without separators -/

/-- Whether a character may separate groups. -/
def isSeparator (c : Char) : Bool := c == ' ' || c == '-'

/-- The text without its spaces and hyphens. -/
def compact (s : List Char) : List Char := s.filter fun c => !isSeparator c

theorem compact_append (s t : List Char) : compact (s ++ t) = compact s ++ compact t :=
  List.filter_append s t

theorem isSeparator_eq_false_of_isDigit {c : Char} (digit : isDigit c = true) :
    isSeparator c = false := by
  rw [isSeparator, Bool.or_eq_false_iff, beq_eq_false_iff_ne, beq_eq_false_iff_ne]
  constructor <;>
  · rintro rfl
    cases digit

theorem DigitRun.compact_eq {least most : Nat} {s : List Char} (run : DigitRun least most s) :
    compact s = s := by
  refine List.filter_eq_self.mpr fun c c_mem => ?_
  rw [isSeparator_eq_false_of_isDigit (run.digit c c_mem)]
  rfl

theorem compact_separator {separator : List Char} (separator_mem : separator ∈ separators) :
    compact separator = [] := by
  revert separator
  decide

theorem nil_mem_separators : [] ∈ separators := List.mem_cons_self

/-- Nine to twelve digits, or a plus and ten to fifteen. -/
inductive CompactPhone : List Char → Prop
  | national {digits : List Char} (run : DigitRun 9 12 digits) : CompactPhone digits
  | international {digits : List Char} (run : DigitRun 10 15 digits) : CompactPhone ('+' :: digits)

theorem CountryText.compact {country : List Char} (country_text : CountryText country) :
    compact country = [] ∨
      ∃ digits, DigitRun 1 3 digits ∧ Phone.compact country = '+' :: digits := by
  cases country_text with
  | absent => exact .inl rfl
  | @code digits separator run separator_mem =>
      refine .inr ⟨digits, run, ?_⟩
      rw [Phone.compact, List.filter_cons_of_pos (by decide)]
      have after := compact_append digits separator
      rw [run.compact_eq, compact_separator separator_mem, List.append_nil] at after
      exact congrArg _ after

/-- Without separators the number of digits is that of all groups together. -/
theorem PhoneText.compactPhone {s : List Char} (phone_text : PhoneText s) :
    CompactPhone (compact s) := by
  cases phone_text with
  | @groups country area first exchange second subscriber country_text area_run first_mem
      exchange_run second_mem subscriber_run =>
      have groups_run := (digitRun_groups_iff _).mpr
        ⟨area, exchange, subscriber, rfl, area_run, exchange_run, subscriber_run⟩
      simp only [compact_append, compact_separator first_mem, compact_separator second_mem,
        area_run.compact_eq, exchange_run.compact_eq, subscriber_run.compact_eq, List.nil_append]
      rcases country_text.compact with absent | ⟨code, code_run, code_eq⟩
      · rw [absent, List.nil_append]
        exact .national groups_run
      · rw [code_eq, List.cons_append]
        exact .international (code_run.append groups_run)

/-- Digits of a number in range can be cut into groups. -/
theorem CompactPhone.phoneText {s : List Char} (compact_phone : CompactPhone s) : PhoneText s := by
  have uncut : ∀ {country digits : List Char}, CountryText country → DigitRun 9 12 digits →
      PhoneText (country ++ digits) := by
    intro country digits country_text run
    obtain ⟨area, exchange, subscriber, rfl, area_run, exchange_run, subscriber_run⟩ :=
      (digitRun_groups_iff digits).mp run
    exact .groups country_text area_run nil_mem_separators exchange_run nil_mem_separators
      subscriber_run
  cases compact_phone with
  | national run => exact uncut .absent run
  | @international digits run =>
      have cut : DigitRun 10 15 digits ↔
          ∃ code groups, digits = code ++ groups ∧ DigitRun 1 3 code ∧ DigitRun 9 12 groups :=
        digitRun_add_iff (show 1 ≤ 3 by decide) (show 9 ≤ 12 by decide) digits
      obtain ⟨code, groups, rfl, code_run, groups_run⟩ := cut.mp run
      have country_text := CountryText.code code_run nil_mem_separators
      rw [List.append_nil] at country_text
      exact uncut country_text groups_run

/-- The text has no separators exactly if deleting them leaves it as it is. -/
theorem compact_eq_self_iff (s : List Char) :
    compact s = s ↔ ∀ c ∈ s, c ≠ ' ' ∧ c ≠ '-' := by
  simp only [compact, isSeparator, List.filter_eq_self, Bool.not_eq_true', Bool.or_eq_false_iff,
    beq_eq_false_iff_ne]

theorem phoneText_iff_of_compact {s : List Char} (no_separators : compact s = s) :
    PhoneText s ↔ CompactPhone s := by
  constructor
  · intro phone_text
    have compact_phone := phone_text.compactPhone
    rwa [no_separators] at compact_phone
  · exact CompactPhone.phoneText

/-! ## What a phone number is made of -/

/-- A digit or a separator. -/
def IsFiller (c : Char) : Prop := isDigit c = true ∨ c = ' ' ∨ c = '-'

theorem DigitRun.isFiller {least most : Nat} {s : List Char} (run : DigitRun least most s) :
    ∀ c ∈ s, IsFiller c :=
  fun c c_mem => .inl (run.digit c c_mem)

theorem isFiller_of_separator {separator : List Char} (separator_mem : separator ∈ separators) :
    ∀ c ∈ separator, IsFiller c := by
  intro c c_mem
  simp only [separators, List.mem_cons, List.not_mem_nil, or_false] at separator_mem
  rcases separator_mem with rfl | rfl | rfl
  · cases c_mem
  · exact .inr (.inl (List.mem_singleton.mp c_mem))
  · exact .inr (.inr (List.mem_singleton.mp c_mem))

/-- After a plus or without one there are digits and separators only. -/
theorem PhoneText.exists_plus {s : List Char} (phone_text : PhoneText s) :
    ∃ plus ∈ [[], ['+']], ∃ rest, s = plus ++ rest ∧ ∀ c ∈ rest, IsFiller c := by
  cases phone_text with
  | groups country_text area_run first_mem exchange_run second_mem subscriber_run =>
      cases country_text with
      | absent =>
          refine ⟨[], List.mem_cons_self, _, rfl, ?_⟩
          simp only [List.forall_mem_append]
          exact ⟨area_run.isFiller, isFiller_of_separator first_mem, exchange_run.isFiller,
            isFiller_of_separator second_mem, subscriber_run.isFiller⟩
      | code code_run separator_mem =>
          refine ⟨['+'], List.mem_cons_of_mem _ List.mem_cons_self, _, rfl, ?_⟩
          simp only [List.append_eq, List.forall_mem_append]
          exact ⟨⟨code_run.isFiller, isFiller_of_separator separator_mem⟩, area_run.isFiller,
            isFiller_of_separator first_mem, exchange_run.isFiller,
            isFiller_of_separator second_mem, subscriber_run.isFiller⟩

theorem countP_isDigit_compact (s : List Char) : (compact s).countP isDigit = s.countP isDigit := by
  rw [compact, List.countP_filter]
  refine List.countP_congr fun c _ => ?_
  cases digit : isDigit c with
  | false => simp
  | true => simp [isSeparator_eq_false_of_isDigit digit]

theorem CompactPhone.countP_isDigit {s : List Char} (compact_phone : CompactPhone s) :
    9 ≤ s.countP isDigit ∧ s.countP isDigit ≤ 15 := by
  cases compact_phone with
  | national run =>
      rw [List.countP_eq_length.mpr run.digit]
      exact ⟨run.least_le, run.le_most.trans (by decide)⟩
  | international run =>
      rw [List.countP_cons_of_neg (by decide), List.countP_eq_length.mpr run.digit]
      exact ⟨(by decide : 9 ≤ 10).trans run.least_le, run.le_most⟩

end Phone

end RequestParams.Grammar

namespace RequestParams.Rule

open Grammar.Phone

theorem accepts_phoneNumber_iff (s : String) :
    phoneNumber.accepts (.str s) = true ↔ PhoneText s.toList :=
  isPhone_iff s

/-- A phone number stays one without its spaces and hyphens. A text without them is a phone number
exactly if it is nine to twelve digits, or a plus and ten to fifteen. So every phone number has nine
to fifteen digits, and there is nothing else in it but spaces, hyphens and a plus in front. The same
is true of the pattern of phone numbers by `accepts_regex_phonePattern`. -/
theorem phoneNumber_accepts_compact (s : String) :
    (phoneNumber.accepts (.str s) = true →
      phoneNumber.accepts (.str (String.ofList (compact s.toList))) = true) ∧
    ((∀ c ∈ s.toList, c ≠ ' ' ∧ c ≠ '-') →
      (phoneNumber.accepts (.str s) = true ↔ CompactPhone s.toList)) ∧
    (phoneNumber.accepts (.str s) = true →
      (9 ≤ s.toList.countP Text.isDigit ∧ s.toList.countP Text.isDigit ≤ 15) ∧
      ∃ plus ∈ [[], ['+']], ∃ rest, s.toList = plus ++ rest ∧
        ∀ c ∈ rest, Text.isDigit c = true ∨ c = ' ' ∨ c = '-') := by
  simp only [accepts_phoneNumber_iff, String.toList_ofList]
  refine ⟨fun phone_text => phone_text.compactPhone.phoneText, fun no_separators => ?_,
    fun phone_text => ⟨?_, phone_text.exists_plus⟩⟩
  · exact phoneText_iff_of_compact ((compact_eq_self_iff s.toList).mpr no_separators)
  · have counted := phone_text.compactPhone.countP_isDigit
    rwa [countP_isDigit_compact] at counted

/-- A number with a country code and spaces stays a phone number without them. -/
theorem phoneNumber_accepts_compact_international :
    phoneNumber.accepts (.str "+1 212 555 0100") = true ∧
      phoneNumber.accepts (.str "+12125550100") = true ∧
      (∀ c ∈ "+12125550100".toList, c ≠ ' ' ∧ c ≠ '-') ∧ CompactPhone "+12125550100".toList := by
  have spaced : phoneNumber.accepts (.str "+1 212 555 0100") = true := by decide
  have no_separators : ∀ c ∈ "+12125550100".toList, c ≠ ' ' ∧ c ≠ '-' := by simp
  obtain ⟨compact_accepted, -, -⟩ := phoneNumber_accepts_compact "+1 212 555 0100"
  obtain ⟨-, accepted_iff, -⟩ := phoneNumber_accepts_compact "+12125550100"
  have accepted : phoneNumber.accepts (.str "+12125550100") = true := compact_accepted spaced
  exact ⟨spaced, accepted, no_separators, (accepted_iff no_separators).mp accepted⟩

end RequestParams.Rule
