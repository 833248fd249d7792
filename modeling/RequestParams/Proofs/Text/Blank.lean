import Mathlib.Data.List.TakeWhile
import RequestParams.Text.Blank

/-!
# Texts without the blanks around them

A text is what is left of it by trimming, with blanks before and after. A part without blanks is
found by trimming wherever only blanks stand around it. A text that is not blank has something else
in it.
-/

namespace RequestParams.Text

theorem isBlankText_eq_false_iff (s : String) :
    isBlankText s = false ↔ ∃ c ∈ s.toList, isBlank c = false := by
  simp [isBlankText]

theorem trimLeft_append_of_blank {before : List Char} (blank : ∀ c ∈ before, isBlank c = true)
    (s : List Char) : trimLeft (before ++ s) = trimLeft s :=
  List.dropWhile_append_of_pos blank

theorem trimLeft_cons_of_visible {c : Char} (visible : isBlank c = false) (s : List Char) :
    trimLeft (c :: s) = c :: s :=
  List.dropWhile_cons_of_neg (by simp [visible])

theorem trimLeft_of_visible {s : List Char} (visible : ∀ c ∈ s, isBlank c = false) :
    trimLeft s = s := by
  cases s with
  | nil => rfl
  | cons c rest => exact trimLeft_cons_of_visible (visible c List.mem_cons_self) rest

theorem trim_of_blank {s : List Char} (blank : ∀ c ∈ s, isBlank c = true) : trim s = [] := by
  have left_eq : trimLeft s = [] := List.dropWhile_eq_nil_iff.mpr blank
  rw [trim, left_eq]
  rfl

/-- Before a text that is trimmed on the left stand blanks only. -/
theorem exists_trimLeft (s : List Char) :
    ∃ before, s = before ++ trimLeft s ∧ ∀ c ∈ before, isBlank c = true :=
  ⟨s.takeWhile isBlank, (List.takeWhile_append_dropWhile).symm, fun _ => List.mem_takeWhile_imp⟩

/-- Around a text that is trimmed stand blanks only. -/
theorem exists_trim (s : List Char) :
    ∃ before after, s = before ++ trim s ++ after ∧ (∀ c ∈ before, isBlank c = true) ∧
      ∀ c ∈ after, isBlank c = true := by
  obtain ⟨before, split, before_blank⟩ := exists_trimLeft s
  obtain ⟨after, rest_split, after_blank⟩ := exists_trimLeft (trimLeft s).reverse
  have rest_eq : trimLeft s = trim s ++ after.reverse := by
    rw [trim, ← List.reverse_append, ← rest_split, List.reverse_reverse]
  refine ⟨before, after.reverse, ?_, before_blank, ?_⟩
  · rw [List.append_assoc, ← rest_eq, ← split]
  · intro c c_mem
    exact after_blank c (List.mem_reverse.mp c_mem)

/-- Trimming leaves a part without blanks exactly if only blanks stand around it. -/
theorem trim_eq_iff {core : List Char} (visible : ∀ c ∈ core, isBlank c = false) (s : List Char) :
    trim s = core ↔ ∃ before after, s = before ++ core ++ after ∧
      (∀ c ∈ before, isBlank c = true) ∧ ∀ c ∈ after, isBlank c = true := by
  constructor
  · rintro rfl
    exact exists_trim s
  · rintro ⟨before, after, rfl, before_blank, after_blank⟩
    cases core with
    | nil =>
        rw [List.append_nil]
        exact trim_of_blank (List.forall_mem_append.mpr ⟨before_blank, after_blank⟩)
    | cons first rest =>
        have first_visible := visible first List.mem_cons_self
        have left_eq : trimLeft (before ++ first :: rest ++ after) = first :: rest ++ after := by
          rw [List.append_assoc, trimLeft_append_of_blank before_blank, List.cons_append,
            trimLeft_cons_of_visible first_visible]
        have after_reverse_blank : ∀ c ∈ after.reverse, isBlank c = true :=
          fun c c_mem => after_blank c (List.mem_reverse.mp c_mem)
        have reverse_visible : ∀ c ∈ (first :: rest).reverse, isBlank c = false :=
          fun c c_mem => visible c (List.mem_reverse.mp c_mem)
        rw [trim, left_eq, List.reverse_append, trimLeft_append_of_blank after_reverse_blank,
          trimLeft_of_visible reverse_visible, List.reverse_reverse]

end RequestParams.Text
