import RequestParams.Proofs.Config.Settings
import RequestParams.Proofs.Text.Integer
import RequestParams.Proofs.Text.Spelling

/-!
# What the texts of variables settle

A setting is what the text of its variable writes, and the default where the variable is unset or
its text writes nothing legal. The status and the key are settled like this by every lookup. The
flag is so only where its text is one of the legal spellings: any other text turns it off, although
the default is on.
-/

namespace RequestParams

namespace Config

/-- The text writes a status: the number of a client or server error in ASCII digits, with or
without a plus sign, and blanks around it. -/
def WritesStatus (text : String) (status : UInt16) : Prop :=
  ∃ before sign digits after, text.toList = before ++ (sign ++ digits) ++ after ∧
    (∀ c ∈ before, Text.isBlank c = true) ∧ (∀ c ∈ after, Text.isBlank c = true) ∧
    (sign = [] ∨ sign = ['+']) ∧ digits ≠ [] ∧ (∀ c ∈ digits, Text.isDigit c = true) ∧
    status.toNat = Text.digitsValue digits ∧ 400 ≤ status.toNat ∧ status.toNat ≤ 599

/-- The text is the key, and there is something to see in it. -/
def WritesKey (text key : String) : Prop :=
  key = text ∧ ∃ c ∈ text.toList, Text.isBlank c = false

/-- The text writes a flag, as a digit or as a word in any case. -/
inductive WritesFlag (text : String) : Bool → Prop
  | one (digit : text = "1") : WritesFlag text true
  | on (spelled : Text.SpelledAs "true" text) : WritesFlag text true
  | zero (digit : text = "0") : WritesFlag text false
  | off (spelled : Text.SpelledAs "false" text) : WritesFlag text false

/-- The value of a setting, by what its variable holds and what texts write. -/
inductive Settles {α : Type} (writes : String → α → Prop) (fallback : α) :
    Option String → α → Prop
  /-- The variable is not set. -/
  | unset : Settles writes fallback none fallback
  /-- The text writes no value. -/
  | illegal {text : String} (none_written : ∀ value, ¬writes text value) :
      Settles writes fallback (some text) fallback
  /-- The text writes the value. -/
  | written {text : String} {value : α} (legal : writes text value) :
      Settles writes fallback (some text) value

/-! ## Texts that are read -/

theorem isBlank_of_isDigit {c : Char} (digit : Text.isDigit c = true) : Text.isBlank c = false := by
  have bounds := (Text.isDigit_iff c).mp digit
  simp only [Text.isBlank, Bool.or_eq_false_iff, Bool.and_eq_false_iff, decide_eq_false_iff_not,
    beq_eq_false_iff_ne]
  omega

theorem status?_eq_some_iff_writesStatus (text : String) (status : UInt16) :
    status? text = some status ↔ WritesStatus text status := by
  rw [status?_eq_some_iff, Text.uint16?_eq_some_iff]
  constructor
  · rintro ⟨⟨sign, digits, trim_eq, signed, nonempty, digit, value_eq⟩, lower, upper⟩
    obtain ⟨before, after, split, before_blank, after_blank⟩ := Text.exists_trim text.toList
    rw [trim_eq] at split
    exact ⟨before, sign, digits, after, split, before_blank, after_blank, signed, nonempty, digit,
      value_eq, lower, upper⟩
  · rintro ⟨before, sign, digits, after, split, before_blank, after_blank, signed, nonempty, digit,
      value_eq, lower, upper⟩
    have sign_visible : ∀ c ∈ sign, Text.isBlank c = false := by
      rcases signed with rfl | rfl
      · exact nofun
      · exact List.forall_mem_singleton.mpr rfl
    have visible : ∀ c ∈ sign ++ digits, Text.isBlank c = false :=
      List.forall_mem_append.mpr
        ⟨sign_visible, fun c c_mem => isBlank_of_isDigit (digit c c_mem)⟩
    have trim_eq : Text.trim text.toList = sign ++ digits :=
      (Text.trim_eq_iff visible text.toList).mpr ⟨before, after, split, before_blank, after_blank⟩
    exact ⟨⟨sign, digits, trim_eq, signed, nonempty, digit, value_eq⟩, lower, upper⟩

theorem small_true : ∀ letter ∈ "true".toList, letter.isLower = true := by
  simp [Char.isLower]

theorem flag_eq_true_iff (text : String) : flag text = true ↔ WritesFlag text true := by
  rw [flag, Bool.or_eq_true, beq_iff_eq, Text.equalsIgnoringAsciiCase_iff small_true]
  constructor
  · rintro (digit | spelled)
    · exact .one digit
    · exact .on spelled
  · intro writes
    cases writes with
    | one digit => exact .inl digit
    | on spelled => exact .inr spelled

/-- No text writes both flags: the spellings are of different lengths or digits. -/
theorem WritesFlag.not_writes_true {text : String} (writes : WritesFlag text false) :
    ¬WritesFlag text true := by
  rintro (⟨rfl⟩ | on)
  · cases writes with
    | zero digit => exact absurd digit (by decide)
    | off off => exact absurd off.length_eq (by decide)
  · cases writes with
    | zero digit =>
        subst digit
        exact absurd on.length_eq (by decide)
    | off off => exact absurd (off.length_eq.trans on.length_eq.symm) (by decide)

theorem flag_eq_of_writes {text : String} {value : Bool} (writes : WritesFlag text value) :
    flag text = value := by
  cases value with
  | true => exact (flag_eq_true_iff text).mpr writes
  | false =>
      rw [← Bool.not_eq_true, flag_eq_true_iff]
      exact writes.not_writes_true

/-- A text that writes no flag turns it off. -/
theorem flag_of_illegal {text : String} (illegal : ∀ value, ¬WritesFlag text value) :
    flag text = false := by
  rw [← Bool.not_eq_true, flag_eq_true_iff]
  exact illegal true

/-! ## Settings that are looked up -/

/-- A reader of all texts that write a value settles a setting. -/
theorem settles_getD_bind {α : Type} {read? : String → Option α} {writes : String → α → Prop}
    (read_iff : ∀ text value, read? text = some value ↔ writes text value) (fallback : α)
    (text? : Option String) :
    Settles writes fallback text? ((text?.bind read?).getD fallback) := by
  cases text? with
  | none => exact .unset
  | some text =>
      rw [Option.bind_some]
      cases read : read? text with
      | none =>
          refine .illegal fun value writes => ?_
          rw [(read_iff text value).mpr writes] at read
          cases read
      | some value => exact .written ((read_iff text value).mp read)

/-- The flag is settled like the other settings exactly if its text is a legal one or not set. -/
theorem settles_flag_iff (text? : Option String) :
    Settles WritesFlag true text? ((text?.map flag).getD true) ↔
      ∀ text, text? = some text → ∃ value, WritesFlag text value := by
  cases text? with
  | none => exact iff_of_true .unset nofun
  | some given =>
      simp only [Option.map_some, Option.getD_some, Option.some.injEq, forall_eq']
      constructor
      · intro settled
        by_contra none_written
        rw [flag_of_illegal (not_exists.mp none_written)] at settled
        cases settled with
        | written legal => exact none_written ⟨false, legal⟩
      · rintro ⟨value, writes⟩
        rw [flag_eq_of_writes writes]
        exact .written writes

theorem ofLookup_congr {lookup other : String → Option String}
    (agree : ∀ name ∈ [statusVariable, keyVariable, logVariable], other name = lookup name) :
    ofLookup other = ofLookup lookup := by
  have status_eq := agree statusVariable (by simp)
  have key_eq := agree keyVariable (by simp)
  have log_eq := agree logVariable (by simp)
  rw [ofLookup, ofLookup, status_eq, key_eq, log_eq]

/-- Status and key are what the texts of their variables write, and the default where a variable is
unset or writes nothing legal. So is the flag, exactly where its variable is unset or legal; any
other text turns it off. No other variable matters. -/
theorem ofLookup_settles (lookup : String → Option String) :
    Settles WritesStatus default.failureStatus (lookup statusVariable)
        (ofLookup lookup).failureStatus ∧
      Settles WritesKey default.errorKey (lookup keyVariable) (ofLookup lookup).errorKey ∧
      (Settles WritesFlag default.logFailures (lookup logVariable) (ofLookup lookup).logFailures ↔
        ∀ text, lookup logVariable = some text → ∃ value, WritesFlag text value) ∧
      (∀ text, lookup logVariable = some text → (∀ value, ¬WritesFlag text value) →
        (ofLookup lookup).logFailures = false) ∧
      ∀ other : String → Option String,
        (∀ name ∈ [statusVariable, keyVariable, logVariable], other name = lookup name) →
          ofLookup other = ofLookup lookup := by
  refine ⟨settles_getD_bind status?_eq_some_iff_writesStatus default.failureStatus _,
    settles_getD_bind key?_eq_some_iff default.errorKey _, settles_flag_iff _, ?_,
    fun other agree => ofLookup_congr agree⟩
  intro text given illegal
  rw [ofLookup, given, Option.map_some, Option.getD_some]
  exact flag_of_illegal illegal

/-- The text `yes` writes no flag, and turns it off, where the default is on. -/
theorem ofLookup_turns_off_illegal :
    ¬∀ lookup : String → Option String,
      Settles WritesStatus default.failureStatus (lookup statusVariable)
          (ofLookup lookup).failureStatus ∧
        Settles WritesKey default.errorKey (lookup keyVariable) (ofLookup lookup).errorKey ∧
        Settles WritesFlag default.logFailures (lookup logVariable)
          (ofLookup lookup).logFailures := by
  intro settled
  have flag_settled : Settles WritesFlag true (some "yes") false :=
    (settled ([("PARAPET_LOG_FAILURES", "yes")].lookup ·)).2.2
  cases flag_settled with
  | written legal =>
      cases legal with
      | zero digit => exact absurd digit (by decide)
      | off spelled => exact absurd spelled.length_eq (by decide)

end Config

end RequestParams
