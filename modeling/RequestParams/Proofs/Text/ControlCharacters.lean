import RequestParams.Text.Quoted

/-!
# Control characters

Characters that a terminal or a log obeys rather than shows. Between quotes a text has none,
whatever it is made of: those that occur in it are shown by a letter or by their number, in digits.
-/

namespace RequestParams.Text

/-- A control character: up to U+001F, or from U+007F to U+009F. -/
def IsControlCharacter (c : Char) : Prop := c.toNat ≤ 0x1F ∨ 0x7F ≤ c.toNat ∧ c.toNat ≤ 0x9F

/-- None of the characters is a control character. -/
def NoneControl (chars : List Char) : Prop := ∀ c ∈ chars, ¬IsControlCharacter c

/-- No control character occurs in the text. -/
def ControlFree (s : String) : Prop := NoneControl s.toList

instance (c : Char) : Decidable (IsControlCharacter c) :=
  inferInstanceAs (Decidable (_ ∨ _))

-- The characters of the list are looked at one by one, not all characters there are.
instance (chars : List Char) : Decidable (NoneControl chars) := List.decidableBAll _ chars

instance (s : String) : Decidable (ControlFree s) :=
  inferInstanceAs (Decidable (NoneControl s.toList))

theorem noneControl_singleton_iff (c : Char) : NoneControl [c] ↔ ¬IsControlCharacter c :=
  List.forall_mem_singleton

theorem noneControl_append_iff (chars others : List Char) :
    NoneControl (chars ++ others) ↔ NoneControl chars ∧ NoneControl others :=
  List.forall_mem_append

theorem controlFree_append_iff (s t : String) :
    ControlFree (s ++ t) ↔ ControlFree s ∧ ControlFree t := by
  rw [ControlFree, String.toList_append, noneControl_append_iff, ControlFree, ControlFree]

/-- Texts are put together with a separator, and neither they nor it have control characters. -/
theorem controlFree_intercalate {separator : String} (separator_free : ControlFree separator)
    {parts : List String} (parts_free : ∀ part ∈ parts, ControlFree part) :
    ControlFree (separator.intercalate parts) := by
  induction parts with
  | nil =>
      rw [String.intercalate_nil]
      decide
  | cons part parts induction =>
      obtain ⟨part_free, rest_free⟩ := List.forall_mem_cons.mp parts_free
      cases parts with
      | nil => rwa [String.intercalate_singleton]
      | cons next parts =>
          rw [String.intercalate_cons_cons, controlFree_append_iff, controlFree_append_iff]
          exact ⟨⟨part_free, separator_free⟩, induction rest_free⟩

/-! ## Quoted texts -/

theorem not_isControlCharacter_digitChar (n : Nat) : ¬IsControlCharacter (Nat.digitChar n) := by
  by_cases small : n < 16
  · revert n
    decide
  · rw [Nat.digitChar_eq_star.mpr (Nat.le_of_not_lt small)]
    decide

theorem noneControl_hexDigits (n : Nat) : NoneControl (hexDigits n) := by
  -- The digits of a number are those of its sixteenth and one more.
  induction n using Nat.strongRecOn with
  | ind n induction =>
      rw [hexDigits, Nat.toDigits_eq_if (by decide)]
      split
      · exact (noneControl_singleton_iff _).mpr (not_isControlCharacter_digitChar n)
      · rename_i large
        rw [noneControl_append_iff, noneControl_singleton_iff]
        exact ⟨induction (n / 16) (by omega), not_isControlCharacter_digitChar _⟩

theorem isControl_of_isControlCharacter {c : Char} (control : IsControlCharacter c) :
    isControl c = true := by
  rw [isControl, Bool.or_eq_true, Bool.and_eq_true, decide_eq_true_iff, decide_eq_true_iff,
    decide_eq_true_iff]
  rcases control with low | ⟨above, below⟩ <;> omega

/-- A character inside quotes is shown without control characters, whatever it is. -/
theorem noneControl_quoteChar (c : Char) : NoneControl (quoteChar c) := by
  unfold quoteChar
  split
  any_goals decide
  -- The characters that have no letter of their own are left.
  split
  · rw [noneControl_append_iff, noneControl_append_iff]
    exact ⟨⟨by decide, noneControl_hexDigits _⟩, by decide⟩
  · rename_i shown_as_itself
    rw [noneControl_singleton_iff]
    intro control
    apply shown_as_itself
    rw [isShownByNumber, isControl_of_isControlCharacter control, Bool.true_or]

/-- A quoted text has no control character, whatever the text is. -/
theorem controlFree_quote (s : String) : ControlFree (quote s) := by
  have inside : NoneControl (s.toList.flatMap quoteChar) := by
    intro shown shown_mem
    obtain ⟨c, -, shown_of⟩ := List.mem_flatMap.mp shown_mem
    exact noneControl_quoteChar c shown shown_of
  rw [ControlFree, quote, String.toList_ofList, List.cons_append, ← List.singleton_append,
    noneControl_append_iff, noneControl_append_iff]
  exact ⟨by decide, inside, by decide⟩

end RequestParams.Text
