import Mathlib
import RequestParams.Text.Lowercase

/-!
# Spellings of words in ASCII letters

Two texts are equal up to the case of ASCII letters if each letter of the one stands in the other,
small or as its capital. No other character counts as a letter of a word, whatever its lower case.
-/

namespace RequestParams.Text

/-- Each letter of the word, small or as its capital. -/
def SpelledAs (word text : String) : Prop :=
  List.Forall₂ (fun letter c => c = letter ∨ c = letter.toUpper) word.toList text.toList

theorem toLower_eq_iff {letter : Char} (small : letter.isLower = true) (c : Char) :
    c.toLower = letter ↔ c = letter ∨ c = letter.toUpper := by
  have letter_kept : letter.toLower = letter :=
    Char.toLower_eq_of_not_isUpper (Char.not_isUpper_of_isLower small)
  constructor
  · rintro rfl
    rw [Char.toUpper_toLower_eq_toUpper]
    by_cases capital : c.isUpper = true
    · exact .inr (Char.toUpper_eq_of_not_isLower (Char.not_isLower_of_isUpper capital)).symm
    · exact .inl (Char.toLower_eq_of_not_isUpper capital).symm
  · rintro (rfl | rfl)
    · exact letter_kept
    · rw [Char.toLower_toUpper_eq_toLower, letter_kept]

theorem map_toLower_eq_iff {letters : List Char}
    (small : ∀ letter ∈ letters, letter.isLower = true) (chars : List Char) :
    chars.map Char.toLower = letters ↔
      List.Forall₂ (fun letter c => c = letter ∨ c = letter.toUpper) letters chars := by
  induction letters generalizing chars with
  | nil => simp
  | cons letter letters induction =>
      obtain ⟨letter_small, letters_small⟩ := List.forall_mem_cons.mp small
      cases chars with
      | nil => simp
      | cons c chars =>
          rw [List.map_cons, List.cons_eq_cons, List.forall₂_cons, toLower_eq_iff letter_small,
            induction letters_small]

theorem equalsIgnoringAsciiCase_iff {word : String}
    (small : ∀ letter ∈ word.toList, letter.isLower = true) (text : String) :
    equalsIgnoringAsciiCase text word = true ↔ SpelledAs word text := by
  have word_eq : word.toList.map lowerAsciiChar = word.toList :=
    (map_toLower_eq_iff small word.toList).mpr (List.forall₂_same.mpr fun _ _ => .inl rfl)
  rw [equalsIgnoringAsciiCase, beq_iff_eq, lowerAscii, lowerAscii, word_eq, String.ofList_inj]
  exact map_toLower_eq_iff small text.toList

/-! ## Texts that differ in case only -/

/-- Each character of the one text stands in the other, as it is, as its capital or small. -/
def SameButCase (s t : String) : Prop :=
  List.Forall₂ (fun c d => d = c ∨ d = c.toUpper ∨ d = c.toLower) s.toList t.toList

instance (s t : String) : Decidable (SameButCase s t) :=
  inferInstanceAs (Decidable (List.Forall₂ _ s.toList t.toList))

theorem toLower_eq_toLower_iff (c d : Char) :
    c.toLower = d.toLower ↔ d = c ∨ d = c.toUpper ∨ d = c.toLower := by
  constructor
  · intro same
    by_cases capital : d.isUpper = true
    · refine .inr (.inl ?_)
      calc
        d = d.toUpper :=
          (Char.toUpper_eq_of_not_isLower (Char.not_isLower_of_isUpper capital)).symm
        _ = d.toLower.toUpper := (Char.toUpper_toLower_eq_toUpper d).symm
        _ = c.toUpper := by rw [← same, Char.toUpper_toLower_eq_toUpper]
    · refine .inr (.inr ?_)
      rw [same, Char.toLower_eq_of_not_isUpper capital]
  · rintro (rfl | rfl | rfl)
    · rfl
    · exact (Char.toLower_toUpper_eq_toLower c).symm
    · exact (Char.toLower_toLower_eq_toLower c).symm

/-- Exactly the texts that differ in case only become one in ASCII lower case. -/
theorem lowerAscii_eq_lowerAscii_iff (s t : String) :
    lowerAscii s = lowerAscii t ↔ SameButCase s t := by
  rw [lowerAscii, lowerAscii, String.ofList_inj, ← List.forall₂_eq_eq_eq, List.forall₂_map_left_iff,
    List.forall₂_map_right_iff, SameButCase]
  simp only [lowerAsciiChar, toLower_eq_toLower_iff]

theorem SameButCase.symm {s t : String} (same : SameButCase s t) : SameButCase t s :=
  (lowerAscii_eq_lowerAscii_iff t s).mp ((lowerAscii_eq_lowerAscii_iff s t).mpr same).symm

end RequestParams.Text
