import Mathlib.Tactic.Common
import RequestParams.Text.Lowercase

/-!
# What lower case depends on

The small form of a character by itself is the same in every text. Of the text before it a capital
sigma asks one thing only, whether the nearest character that counts is cased; so a text put behind
another one keeps its lower case unless a sigma at its very beginning becomes the end of a word.
Without a capital sigma lower case goes character by character, and neither makes dots nor loses
them.
-/

namespace RequestParams.Text

theorem length_lowerFrom (before other s : List Char) :
    (lowerFrom before s).length = (lowerFrom other s).length := by
  induction s generalizing before other with
  | nil => rfl
  | cons c rest induction =>
      rw [lowerFrom, lowerFrom, List.length_append, List.length_append,
        induction (c :: before) (c :: other)]
      split_ifs <;> rfl

/-- The lower case of a text begins with something and goes on with that of its end. -/
theorem exists_lowerFrom_append (before s t : List Char) :
    ∃ head, lowerFrom before (s ++ t) = head ++ lowerFrom (s.reverse ++ before) t := by
  induction s generalizing before with
  | nil => exact ⟨[], rfl⟩
  | cons c rest induction =>
      obtain ⟨head, head_eq⟩ := induction (c :: before)
      rw [List.cons_append, lowerFrom, head_eq, ← List.append_assoc, List.reverse_cons,
        List.append_assoc rest.reverse, List.singleton_append]
      exact ⟨_, rfl⟩

theorem reachesCased_nil : reachesCased [] = false := rfl

theorem reachesCased_cons (c : Char) (s : List Char) :
    reachesCased (c :: s) =
      if caseIgnorable.contains c then reachesCased s else cased.contains c := by
  rw [reachesCased, List.dropWhile_cons]
  split_ifs <;> rfl

/-- Texts before that reach a cased character alike give one lower case. -/
theorem lowerFrom_congr {before other : List Char}
    (same : reachesCased before = reachesCased other) (s : List Char) :
    lowerFrom before s = lowerFrom other s := by
  induction s generalizing before other with
  | nil => rfl
  | cons c rest induction =>
      have same_after : reachesCased (c :: before) = reachesCased (c :: other) := by
        rw [reachesCased_cons, reachesCased_cons, same]
      rw [lowerFrom, lowerFrom, lowerSigma, lowerSigma, same, induction same_after]

/-- A text that begins, past characters that do not count, with a capital sigma after which no cased
character is reached. -/
inductive OpensWithFinalSigma : List Char → Prop
  | sigma {rest : List Char} (final : reachesCased rest = false) : OpensWithFinalSigma ('Σ' :: rest)
  | ignorable {c : Char} {rest : List Char} (ignorable : caseIgnorable.contains c = true)
      (opens : OpensWithFinalSigma rest) : OpensWithFinalSigma (c :: rest)

theorem sigma_not_ignorable : caseIgnorable.contains 'Σ' = false := by decide +kernel

theorem opensWithFinalSigma_sigma_iff (rest : List Char) :
    OpensWithFinalSigma ('Σ' :: rest) ↔ reachesCased rest = false := by
  constructor
  · intro opens
    cases opens with
    | sigma final => exact final
    | ignorable ignorable opens => exact absurd ignorable (by simp [sigma_not_ignorable])
  · exact .sigma

theorem opensWithFinalSigma_cons_iff {c : Char} (c_ne : c ≠ 'Σ') (rest : List Char) :
    OpensWithFinalSigma (c :: rest) ↔
      caseIgnorable.contains c = true ∧ OpensWithFinalSigma rest := by
  constructor
  · intro opens
    cases opens with
    | sigma final => exact absurd rfl c_ne
    | ignorable ignorable opens => exact ⟨ignorable, opens⟩
  · rintro ⟨ignorable, opens⟩
    exact .ignorable ignorable opens

theorem lowerFrom_eq_iff_of_reaches {before other : List Char}
    (reached : reachesCased before = true) (unreached : reachesCased other = false)
    (s : List Char) : lowerFrom before s = lowerFrom other s ↔ ¬OpensWithFinalSigma s := by
  induction s generalizing before other with
  | nil => exact iff_of_true rfl nofun
  | cons c rest induction =>
      rw [lowerFrom, lowerFrom]
      by_cases c_eq : c = 'Σ'
      · -- Behind the sigma both texts reach a cased character: the sigma.
        subst c_eq
        have same_after : reachesCased ('Σ' :: before) = reachesCased ('Σ' :: other) := by
          rw [reachesCased_cons, reachesCased_cons, sigma_not_ignorable]
          rfl
        rw [opensWithFinalSigma_sigma_iff, lowerFrom_congr same_after, if_pos rfl, if_pos rfl,
          List.append_left_inj, lowerSigma, lowerSigma, reached, unreached]
        cases reachesCased rest <;> decide
      · rw [opensWithFinalSigma_cons_iff c_eq, if_neg c_eq, if_neg c_eq, List.append_right_inj]
        cases ignorable : caseIgnorable.contains c with
        | true =>
            have before_eq := reachesCased_cons c before
            have other_eq := reachesCased_cons c other
            rw [if_pos ignorable] at before_eq other_eq
            rw [induction (before_eq.trans reached) (other_eq.trans unreached)]
            simp
        | false =>
            have same_after : reachesCased (c :: before) = reachesCased (c :: other) := by
              rw [reachesCased_cons, reachesCased_cons, ignorable]
              rfl
            rw [lowerFrom_congr same_after]
            simp

/-- A text behind another one has its own lower case unless it opens with a sigma that ends a word
of the text before. -/
theorem lowerFrom_eq_lowerFrom_nil_iff (before s : List Char) :
    lowerFrom before s = lowerFrom [] s ↔
      ¬(reachesCased before = true ∧ OpensWithFinalSigma s) := by
  cases reached : reachesCased before with
  | true => simpa using lowerFrom_eq_iff_of_reaches reached reachesCased_nil s
  | false => simpa using lowerFrom_congr (reached.trans reachesCased_nil.symm) s

/-! ## Lower case by characters -/

/-- Without a capital sigma each character is made small by itself. -/
theorem lowerFrom_eq_flatMap {s : List Char} (plain : 'Σ' ∉ s) (before : List Char) :
    lowerFrom before s = s.flatMap lowerChar := by
  induction s generalizing before with
  | nil => rfl
  | cons c rest induction =>
      rw [List.mem_cons, not_or] at plain
      rw [lowerFrom, if_neg (Ne.symm plain.1), induction plain.2, List.flatMap_cons]

theorem lowerChar_dot : lowerChar '.' = ['.'] := by decide +kernel

theorem le_of_map?_eq_some {r : CaseRun} {n image : Nat} (mapped : r.map? n = some image) :
    r.image ≤ image := by
  rw [CaseRun.map?, Option.ite_none_right_eq_some] at mapped
  have image_eq := Option.some.inj mapped.2
  omega

/-- Small letters begin with `a`, behind the dot. -/
theorem le_image_of_mem_capitals : ∀ run ∈ capitals, 0x61 ≤ run.image := by decide +kernel

theorem ofNat_ne_dot {n : Nat} (behind : 0x61 ≤ n) : Char.ofNat n ≠ '.' := by
  intro dot
  unfold Char.ofNat at dot
  by_cases valid : n.isValidChar
  · rw [dif_pos valid] at dot
    have n_eq : n = 46 := congrArg Char.toNat dot
    omega
  · rw [dif_neg valid] at dot
    cases dot

/-- No other character has a dot in its small form. -/
theorem dot_mem_lowerChar_iff (c : Char) : '.' ∈ lowerChar c ↔ c = '.' := by
  constructor
  · intro dot_mem
    unfold lowerChar at dot_mem
    split at dot_mem
    · simp at dot_mem
    · split at dot_mem
      · rename_i image found
        obtain ⟨run, run_mem, mapped⟩ := List.exists_of_findSome?_eq_some found
        have behind :=
          Nat.le_trans (le_image_of_mem_capitals run run_mem) (le_of_map?_eq_some mapped)
        exact absurd (List.mem_singleton.mp dot_mem).symm (ofNat_ne_dot behind)
      · exact (List.mem_singleton.mp dot_mem).symm
  · rintro rfl
    rw [lowerChar_dot]
    exact List.mem_singleton_self _

theorem dot_mem_flatMap_lowerChar_iff (s : List Char) : '.' ∈ s.flatMap lowerChar ↔ '.' ∈ s := by
  simp [dot_mem_lowerChar_iff]

end RequestParams.Text
