import Mathlib.Data.List.Induction
import Mathlib.Data.Nat.Init
import Mathlib.Tactic.Common
import RequestParams.Pattern

/-!
# What patterns match

Which texts an expression matches is said by cutting them into parts. The matcher takes a set of
positions to all positions where a match from one of them can end, and counts no further than the
text is long. It finds exactly the matches: among more steps than there are positions one does not
move on, and that step can be left out or repeated.
-/

namespace RequestParams.Pattern

/-! ## Parts of a text -/

/-- A condition on a part of a text and on what stands before and after it. -/
abbrev Condition := List Char → List Char → List Char → Prop

/-- The part has two parts, one after the other. -/
def Condition.followedBy (first second : Condition) : Condition := fun before s after =>
  ∃ front back, s = front ++ back ∧ first before front (back ++ after) ∧
    second (before ++ front) back after

/-- The part has so many parts, one after the other. -/
def Condition.times (condition : Condition) : Nat → Condition
  | 0 => fun _ s _ => s = []
  | n + 1 => condition.followedBy (condition.times n)

/-- An expression matches a part of a text. -/
def Expr.Matches : Expr → Condition
  | empty => fun _ s _ => s = []
  | char cls _ => fun _ s _ => ∃ c, s = [c] ∧ cls c = true
  | look condition => fun before s after =>
    s = [] ∧ condition.holds before.getLast? after.head? = true
  | seq first second => first.Matches.followedBy second.Matches
  | alt left right => fun before s after =>
    left.Matches before s after ∨ right.Matches before s after
  | repeated e least most => fun before s after =>
    ∃ further, (∀ n ∈ most, further ≤ n - least) ∧
      e.Matches.times (least + further) before s after

/-- The part of the text between two positions meets the condition. -/
def Spans (text : List Char) (condition : Condition) (i j : Nat) : Prop :=
  ∃ before s after, text = before ++ (s ++ after) ∧ before.length = i ∧ i + s.length = j ∧
    condition before s after

variable {text : List Char} {i j k : Nat}

theorem Spans.le {condition : Condition} (spans : Spans text condition i j) :
    i ≤ j ∧ j ≤ text.length := by
  obtain ⟨before, s, after, rfl, rfl, rfl, -⟩ := spans
  simp only [List.length_append]
  omega

theorem exists_cut (le : i ≤ text.length) :
    ∃ before after, text = before ++ after ∧ before.length = i :=
  ⟨text.take i, text.drop i, (List.take_append_drop i text).symm, List.length_take_of_le le⟩

/-- Nothing is between two positions exactly if they are the same. -/
theorem spans_empty_iff : Spans text Expr.empty.Matches i j ↔ i = j ∧ i ≤ text.length := by
  constructor
  · rintro ⟨before, _, after, rfl, rfl, rfl, rfl⟩
    rw [List.length_append]
    exact ⟨rfl, Nat.le_add_right _ _⟩
  · rintro ⟨rfl, le⟩
    obtain ⟨before, after, rfl, rfl⟩ := exists_cut le
    exact ⟨before, [], after, rfl, rfl, rfl, rfl⟩

theorem spans_followedBy_iff (first second : Condition) :
    Spans text (first.followedBy second) i j ↔
      ∃ k, Spans text first i k ∧ Spans text second k j := by
  constructor
  · rintro ⟨before, _, after, text_eq, rfl, rfl, front, back, rfl, front_holds, back_holds⟩
    refine ⟨_, ⟨before, front, back ++ after, ?_, rfl, rfl, front_holds⟩,
      before ++ front, back, after, ?_, List.length_append, ?_, back_holds⟩
    · rw [text_eq, List.append_assoc]
    · rw [text_eq, List.append_assoc, List.append_assoc]
    · rw [List.length_append, Nat.add_assoc]
  · rintro ⟨_, ⟨before, front, rest, text_eq, rfl, rfl, front_holds⟩, other, back, after, other_eq,
      length_eq, rfl, back_holds⟩
    -- Both cuts are at the same position, so that what stands before it is the same.
    rw [← List.length_append] at length_eq
    rw [← List.append_assoc] at text_eq
    obtain ⟨rfl, rfl⟩ := List.append_inj (text_eq.symm.trans other_eq) length_eq.symm
    refine ⟨before, front ++ back, after, ?_, rfl, ?_, front, back, rfl, front_holds, back_holds⟩
    · rw [text_eq, List.append_assoc, List.append_assoc]
    · rw [List.length_append, Nat.add_assoc]

/-! ## Steps between positions -/

/-- So many steps of a relation, one after the other. -/
def Steps (R : Nat → Nat → Prop) : Nat → Nat → Nat → Prop
  | 0, i, j => i = j
  | n + 1, i, j => ∃ k, R i k ∧ Steps R n k j

theorem steps_spans_iff (condition : Condition) (n : Nat) (le : i ≤ text.length) :
    Steps (Spans text condition) n i j ↔ Spans text (condition.times n) i j := by
  induction n generalizing i with
  | zero => exact (and_iff_left le).symm.trans spans_empty_iff.symm
  | succ n induction =>
      rw [Condition.times, spans_followedBy_iff]
      constructor
      · rintro ⟨k, step, steps⟩
        exact ⟨k, step, (induction step.le.2).mp steps⟩
      · rintro ⟨k, step, rest⟩
        exact ⟨k, step, (induction step.le.2).mpr rest⟩

section Steps

variable {R : Nat → Nat → Prop} {n bound : Nat}

theorem steps_add_iff (m n : Nat) :
    Steps R (m + n) i j ↔ ∃ k, Steps R m i k ∧ Steps R n k j := by
  induction m generalizing i with
  | zero => simp [Steps]
  | succ m induction =>
      rw [Nat.succ_add]
      simp only [Steps, induction]
      constructor
      · rintro ⟨l, step, k, steps, rest⟩
        exact ⟨k, ⟨l, step, steps⟩, rest⟩
      · rintro ⟨k, ⟨l, step, steps⟩, rest⟩
        exact ⟨l, step, k, steps, rest⟩

theorem le_of_steps (forward : ∀ i j, R i j → i ≤ j ∧ j ≤ bound) (some_step : 0 < n)
    (steps : Steps R n i j) : j ≤ bound := by
  induction n generalizing i with
  | zero => exact absurd some_step (Nat.lt_irrefl 0)
  | succ n induction =>
      obtain ⟨k, step, rest⟩ := steps
      rcases Nat.eq_zero_or_pos n with rfl | later
      · obtain rfl : k = j := rest
        exact (forward i k step).2
      · exact induction later rest

/-- Of more steps than positions are passed, one does not move on. -/
theorem exists_idle_step (forward : ∀ i j, R i j → i ≤ j ∧ j ≤ bound) (many : j < i + n)
    (steps : Steps R n i j) :
    ∃ front back k, n = front + 1 + back ∧ Steps R front i k ∧ R k k ∧ Steps R back k j := by
  induction n generalizing i with
  | zero =>
      obtain rfl : i = j := steps
      omega
  | succ n induction =>
      obtain ⟨k, step, rest⟩ := steps
      have le := (forward i k step).1
      by_cases idle : i = k
      · exact ⟨0, n, i, by omega, rfl, idle ▸ step, idle ▸ rest⟩
      · obtain ⟨front, back, l, n_eq, front_steps, idle_step, back_steps⟩ :=
          induction (by omega) rest
        exact ⟨front + 1, back, l, by omega, ⟨k, step, front_steps⟩, idle_step, back_steps⟩

/-- Beyond the number of positions one step more or less makes no difference. -/
theorem steps_succ_iff (forward : ∀ i j, R i j → i ≤ j ∧ j ≤ bound) (many : bound < n) :
    Steps R (n + 1) i j ↔ Steps R n i j := by
  constructor
  · intro steps
    have j_le := le_of_steps forward (Nat.succ_pos n) steps
    obtain ⟨front, back, k, n_eq, front_steps, -, back_steps⟩ :=
      exists_idle_step forward (by omega) steps
    rw [show n = front + back by omega]
    exact (steps_add_iff front back).mpr ⟨k, front_steps, back_steps⟩
  · intro steps
    have j_le := le_of_steps forward (Nat.zero_lt_of_lt many) steps
    obtain ⟨front, back, k, rfl, front_steps, idle_step, back_steps⟩ :=
      exists_idle_step forward (by omega) steps
    rw [show front + 1 + back + 1 = front + (back + 2) by omega]
    exact (steps_add_iff front (back + 2)).mpr
      ⟨k, front_steps, k, idle_step, k, idle_step, back_steps⟩

theorem steps_iff_of_lt (forward : ∀ i j, R i j → i ≤ j ∧ j ≤ bound) (many : bound < n) :
    Steps R n i j ↔ Steps R (bound + 1) i j := by
  induction n, many using Nat.le_induction with
  | base => exact Iff.rfl
  | succ n many induction => rw [steps_succ_iff forward many, induction]

end Steps

/-! ## Sets of positions -/

namespace Positions

/-- The position is in the set. -/
def Holds (s : Positions) (i : Nat) : Prop := s[i]? = some true

theorem Holds.lt {s : Positions} (holds : s.Holds i) : i < s.length := by
  obtain ⟨lt, -⟩ := List.getElem?_eq_some_iff.mp holds
  exact lt

theorem any_id_iff (s : Positions) : s.any id = true ↔ ∃ i, s.Holds i := by
  simp only [List.any_eq_true, id_eq, exists_eq_right, List.mem_iff_getElem?, Holds]

theorem holds_replicate_iff (n : Nat) : Holds (List.replicate n true) i ↔ i < n := by
  simp [Holds, List.getElem?_replicate]

theorem holds_zipWith_iff {α : Type} {f : Bool → α → Bool} {s : Positions} {t : List α} :
    Holds (List.zipWith f s t) i ↔ ∃ a b, s[i]? = some a ∧ t[i]? = some b ∧ f a b = true := by
  simp only [Holds, List.getElem?_zipWith_eq_some]

theorem holds_join_iff {s t : Positions} (same : s.length = t.length) :
    (s.join t).Holds i ↔ s.Holds i ∨ t.Holds i := by
  rw [join, holds_zipWith_iff]
  constructor
  · rintro ⟨a, b, a_eq, b_eq, either⟩
    rcases (Bool.or_eq_true a b).mp either with rfl | rfl
    · exact .inl a_eq
    · exact .inr b_eq
  · rintro (holds | holds)
    · have i_lt : i < t.length := same ▸ holds.lt
      exact ⟨true, t[i], holds, List.getElem?_eq_getElem i_lt, rfl⟩
    · have i_lt : i < s.length := same ▸ holds.lt
      exact ⟨s[i], true, List.getElem?_eq_getElem i_lt, holds, Bool.or_true _⟩

theorem holds_without_iff {s t : Positions} (same : s.length = t.length) :
    (s.without t).Holds i ↔ s.Holds i ∧ ¬t.Holds i := by
  rw [without, holds_zipWith_iff]
  constructor
  · rintro ⟨a, b, a_eq, b_eq, both⟩
    obtain ⟨rfl, absent⟩ := (Bool.and_eq_true a _).mp both
    refine ⟨a_eq, fun holds => ?_⟩
    rw [Option.some.inj (b_eq.symm.trans holds)] at absent
    cases absent
  · rintro ⟨holds, absent⟩
    have i_lt : i < t.length := same ▸ holds.lt
    have b_eq : t[i]? = some t[i] := List.getElem?_eq_getElem i_lt
    refine ⟨true, t[i], holds, b_eq, ?_⟩
    cases value : t[i] with
    | false => rfl
    | true => exact absurd (b_eq.trans (congrArg some value)) absent

/-! ## Steps from a set -/

/-- The function takes a set to the positions that one step of the relation leads to. -/
structure Computes (length : Nat) (f : Positions → Positions) (R : Nat → Nat → Prop) : Prop where
  /-- The number of positions stays the same. -/
  length_eq : ∀ s : Positions, s.length = length → (f s).length = length
  /-- A position is reached by a step from some position. -/
  holds_iff : ∀ (s : Positions) j, s.length = length →
    ((f s).Holds j ↔ ∃ i, s.Holds i ∧ R i j)

variable {length : Nat} {f : Positions → Positions} {R : Nat → Nat → Prop}

theorem Computes.iterate (computes : Computes length f R) (n : Nat) :
    Computes length (Positions.iterate f n) (Steps R n) := by
  induction n with
  | zero => exact ⟨fun s length_eq => length_eq, fun s j _ => by simp [Positions.iterate, Steps]⟩
  | succ n induction =>
      refine ⟨fun s length_eq => induction.length_eq _ (computes.length_eq s length_eq), ?_⟩
      intro s j length_eq
      rw [Positions.iterate, induction.holds_iff _ j (computes.length_eq s length_eq)]
      simp only [computes.holds_iff s _ length_eq, Steps]
      constructor
      · rintro ⟨k, ⟨i, holds, step⟩, steps⟩
        exact ⟨i, holds, k, step, steps⟩
      · rintro ⟨i, holds, k, step, steps⟩
        exact ⟨k, ⟨i, holds, step⟩, steps⟩

/-- What a closure has found so far: the positions added last are among those reached, and from the
others no step leads out of them. -/
structure Found (length : Nat) (R : Nat → Nat → Prop) (reached added : Positions) : Prop where
  reached_length : reached.length = length
  added_length : added.length = length
  added_reached : ∀ i, added.Holds i → reached.Holds i
  closed : ∀ i j, reached.Holds i → ¬added.Holds i → R i j → reached.Holds j

theorem Found.next_length (computes : Computes length f R) {reached added : Positions}
    (found : Found length R reached added) : ((f added).without reached).length = length := by
  rw [without, List.length_zipWith, computes.length_eq added found.added_length,
    found.reached_length, Nat.min_self]

/-- A step from a position reached leads to one reached or to one added next. -/
theorem Found.reached_or_next (computes : Computes length f R) {reached added : Positions}
    (found : Found length R reached added) (holds : reached.Holds i) (step : R i j) :
    reached.Holds j ∨ ((f added).without reached).Holds j := by
  rw [holds_without_iff ((computes.length_eq added found.added_length).trans
    found.reached_length.symm), computes.holds_iff added j found.added_length]
  by_cases known : reached.Holds j
  · exact .inl known
  · refine .inr ⟨⟨i, ?_, step⟩, known⟩
    by_contra old
    exact known (found.closed i j holds old step)

theorem Found.next (computes : Computes length f R) {reached added : Positions}
    (found : Found length R reached added) :
    Found length R (reached.join ((f added).without reached)) ((f added).without reached) := by
  have next_length := found.next_length computes
  have same := found.reached_length.trans next_length.symm
  refine ⟨?_, next_length, fun i holds => (holds_join_iff same).mpr (.inr holds), ?_⟩
  · rw [join, List.length_zipWith, found.reached_length, next_length, Nat.min_self]
  · intro i j holds old step
    rw [holds_join_iff same] at holds ⊢
    exact found.reached_or_next computes (holds.resolve_right old) step

/-- If nothing is added, no number of steps leads out of the positions reached. -/
theorem Found.holds_of_steps (computes : Computes length f R) {reached added : Positions}
    (found : Found length R reached added)
    (complete : ((f added).without reached).any id ≠ true) {n : Nat} (holds : reached.Holds i)
    (steps : Steps R n i j) : reached.Holds j := by
  induction n generalizing i with
  | zero =>
      obtain rfl : i = j := steps
      exact holds
  | succ n induction =>
      obtain ⟨k, step, rest⟩ := steps
      rcases found.reached_or_next computes holds step with known | new
      · exact induction known rest
      · exact absurd ((any_id_iff _).mpr ⟨k, new⟩) complete

/-- A closure finds what so many steps reach from the positions reached at first. -/
theorem holds_closure_iff (computes : Computes length f R) (n : Nat) {reached added : Positions}
    (found : Found length R reached added) (j : Nat) :
    (closure f n reached added).Holds j ↔ ∃ m ≤ n, ∃ i, reached.Holds i ∧ Steps R m i j := by
  induction n generalizing reached added with
  | zero =>
      simp only [closure, Nat.le_zero_eq, exists_eq_left, Steps, exists_eq_right]
  | succ n induction =>
      have same := found.reached_length.trans (found.next_length computes).symm
      rw [closure]
      split
      · rw [induction (found.next computes)]
        simp only [holds_join_iff same]
        constructor
        · rintro ⟨m, m_le, i, known | new, steps⟩
          · exact ⟨m, Nat.le_succ_of_le m_le, i, known, steps⟩
          · have same_length := (computes.length_eq added found.added_length).trans
              found.reached_length.symm
            rw [holds_without_iff same_length, computes.holds_iff added i found.added_length] at new
            obtain ⟨⟨k, holds, step⟩, -⟩ := new
            exact ⟨m + 1, Nat.succ_le_succ m_le, k, found.added_reached k holds, i, step, steps⟩
        · rintro ⟨m, m_le, i, holds, steps⟩
          rcases Nat.lt_or_eq_of_le m_le with m_lt | rfl
          · exact ⟨m, Nat.le_of_lt_succ m_lt, i, .inl holds, steps⟩
          · obtain ⟨k, step, rest⟩ := steps
            exact ⟨n, Nat.le_refl n, k, found.reached_or_next computes holds step, rest⟩
      · rename_i complete
        constructor
        · intro holds
          exact ⟨0, Nat.zero_le _, j, holds, rfl⟩
        · rintro ⟨m, -, i, holds, steps⟩
          exact found.holds_of_steps computes complete holds steps

theorem length_closure (computes : Computes length f R) (n : Nat) {reached added : Positions}
    (found : Found length R reached added) : (closure f n reached added).length = length := by
  induction n generalizing reached added with
  | zero => exact found.reached_length
  | succ n induction =>
      rw [closure]
      split
      · exact induction (found.next computes)
      · exact found.reached_length

/-- A closure computes up to so many steps. -/
theorem Computes.closure (computes : Computes length f R) (n : Nat) :
    Computes length (fun s => Positions.closure f n s s) fun i j => ∃ m ≤ n, Steps R m i j := by
  have found : ∀ s : Positions, s.length = length → Found length R s s := fun s length_eq =>
    ⟨length_eq, length_eq, fun i holds => holds, fun i j holds old _ => absurd holds old⟩
  refine ⟨fun s length_eq => length_closure computes n (found s length_eq), ?_⟩
  intro s j length_eq
  rw [holds_closure_iff computes n (found s length_eq)]
  constructor
  · rintro ⟨m, m_le, i, holds, steps⟩
    exact ⟨i, holds, m, m_le, steps⟩
  · rintro ⟨i, holds, m, m_le, steps⟩
    exact ⟨m, m_le, i, holds, steps⟩

theorem Computes.comp {g : Positions → Positions} {S : Nat → Nat → Prop}
    (computes : Computes length f R) (computes' : Computes length g S) :
    Computes length (fun s => g (f s)) fun i j => ∃ k, R i k ∧ S k j := by
  refine ⟨fun s length_eq => computes'.length_eq _ (computes.length_eq s length_eq), ?_⟩
  intro s j length_eq
  simp only [computes'.holds_iff _ j (computes.length_eq s length_eq),
    computes.holds_iff s _ length_eq]
  constructor
  · rintro ⟨k, ⟨i, holds, step⟩, step'⟩
    exact ⟨i, holds, k, step, step'⟩
  · rintro ⟨i, holds, k, step, step'⟩
    exact ⟨k, ⟨i, holds, step⟩, step'⟩

theorem Computes.congr {S : Nat → Nat → Prop} (computes : Computes length f R)
    (same : ∀ i j, i < length → (R i j ↔ S i j)) : Computes length f S := by
  refine ⟨computes.length_eq, fun s j length_eq => ?_⟩
  rw [computes.holds_iff s j length_eq]
  constructor
  · rintro ⟨i, holds, step⟩
    exact ⟨i, holds, (same i j (length_eq ▸ holds.lt)).mp step⟩
  · rintro ⟨i, holds, step⟩
    exact ⟨i, holds, (same i j (length_eq ▸ holds.lt)).mpr step⟩

end Positions

/-! ## The matcher -/

open Positions (Computes)

theorem getElem?_eq_some_iff_cut (c : Char) :
    text[i]? = some c ↔ ∃ before after, text = before ++ c :: after ∧ before.length = i := by
  constructor
  · intro at_i
    obtain ⟨i_lt, rfl⟩ := List.getElem?_eq_some_iff.mp at_i
    refine ⟨text.take i, text.drop (i + 1), ?_, List.length_take_of_le (Nat.le_of_lt i_lt)⟩
    rw [← List.drop_eq_getElem_cons i_lt, List.take_append_drop]
  · rintro ⟨before, after, rfl, rfl⟩
    simp

theorem spans_char_iff (cls : Char → Bool) (cost : Nat) :
    Spans text (Expr.char cls cost).Matches i j ↔
      i + 1 = j ∧ ∃ c, text[i]? = some c ∧ cls c = true := by
  simp only [getElem?_eq_some_iff_cut]
  constructor
  · rintro ⟨before, _, after, text_eq, rfl, rfl, c, rfl, in_class⟩
    exact ⟨rfl, c, ⟨before, after, text_eq, rfl⟩, in_class⟩
  · rintro ⟨rfl, c, ⟨before, after, text_eq, rfl⟩, in_class⟩
    exact ⟨before, [c], after, text_eq, rfl, rfl, c, rfl, in_class⟩

theorem computes_advance (text : List Char) (cls : Char → Bool) (cost : Nat) :
    Computes (text.length + 1) (Positions.advance text cls)
      (Spans text (Expr.char cls cost).Matches) := by
  constructor
  · intro s length_eq
    rw [Positions.advance, List.length_cons, List.length_zipWith, length_eq]
    omega
  · intro s j _
    simp only [spans_char_iff]
    cases j with
    | zero => simp [Positions.advance, Positions.Holds]
    | succ j =>
        have shifted : (s.advance text cls).Holds (j + 1) ↔
            Positions.Holds (List.zipWith (fun here c => here && cls c) s text) j := Iff.rfl
        rw [shifted, Positions.holds_zipWith_iff]
        constructor
        · rintro ⟨a, c, a_eq, c_eq, both⟩
          obtain ⟨rfl, in_class⟩ := (Bool.and_eq_true a _).mp both
          exact ⟨j, a_eq, rfl, c, c_eq, in_class⟩
        · rintro ⟨i, holds, next_eq, c, c_eq, in_class⟩
          obtain rfl := Nat.succ.inj next_eq
          exact ⟨true, c, holds, c_eq, in_class⟩

theorem getElem?_neighbours (before after : List Char) :
    (neighbours (before ++ after))[before.length]? = some (before.getLast?, after.head?) := by
  have left : (none :: (before ++ after).map some)[before.length]? = some before.getLast? := by
    cases before using List.reverseRecOn with
    | nil => rfl
    | append_singleton front c => simp
  have right : ((before ++ after).map some ++ [none])[before.length]? = some after.head? := by
    cases after <;> simp
  rw [neighbours, List.getElem?_zip_eq_some]
  exact ⟨left, right⟩

theorem computes_look (text : List Char) (condition : Assertion) :
    Computes (text.length + 1)
      (fun s => List.zipWith (fun here (before, after) => here && condition.holds before after) s
        (neighbours text))
      (Spans text (Expr.look condition).Matches) := by
  constructor
  · intro s length_eq
    simp [neighbours, length_eq]
  · intro s j length_eq
    rw [Positions.holds_zipWith_iff]
    constructor
    · rintro ⟨a, ⟨b, c⟩, a_eq, beside, both⟩
      obtain ⟨rfl, condition_holds⟩ := (Bool.and_eq_true a _).mp both
      have j_le : j ≤ text.length := by
        have j_lt := Positions.Holds.lt a_eq
        omega
      obtain ⟨before, after, rfl, rfl⟩ := exists_cut j_le
      have known := beside.symm.trans (getElem?_neighbours before after)
      obtain ⟨rfl, rfl⟩ := Prod.mk.inj (Option.some.inj known)
      exact ⟨_, a_eq, before, [], after, rfl, rfl, rfl, rfl, condition_holds⟩
    · rintro ⟨i, holds, before, _, after, rfl, rfl, rfl, rfl, condition_holds⟩
      exact ⟨true, _, holds, getElem?_neighbours before after, condition_holds⟩

/-- Counting no further than the text is long loses no repetition and makes up none. -/
theorem exists_steps_iff {R : Nat → Nat → Prop} {bound : Nat}
    (forward : ∀ i j, R i j → i ≤ j ∧ j ≤ bound) (least : Nat) (limit : Option Nat) :
    (∃ m ≤ min (limit.getD (bound + 1)) (bound + 1), Steps R (min least (bound + 1) + m) i j) ↔
      ∃ further, (∀ n ∈ limit, further ≤ n) ∧ Steps R (least + further) i j := by
  constructor
  · rintro ⟨m, m_le, steps⟩
    refine ⟨m, fun n n_mem => ?_, ?_⟩
    · rw [Option.mem_def.mp n_mem] at m_le
      exact Nat.le_trans m_le (Nat.min_le_left _ _)
    · by_cases small : least ≤ bound + 1
      · rwa [Nat.min_eq_left small] at steps
      · rw [steps_iff_of_lt forward (by omega)] at steps ⊢
        exact steps
  · rintro ⟨further, further_le, steps⟩
    refine ⟨min further (bound + 1), Nat.le_min.mpr ⟨?_, Nat.min_le_right _ _⟩, ?_⟩
    · cases limit with
      | none => exact Nat.min_le_right _ _
      | some n => exact Nat.le_trans (Nat.min_le_left _ _) (further_le n rfl)
    · by_cases small : least ≤ bound + 1 ∧ further ≤ bound + 1
      · rwa [Nat.min_eq_left small.1, Nat.min_eq_left small.2]
      · rw [steps_iff_of_lt forward (by omega)] at steps ⊢
        exact steps

theorem computes_empty (text : List Char) :
    Computes (text.length + 1) id (Spans text Expr.empty.Matches) := by
  refine ⟨fun s length_eq => length_eq, fun s j length_eq => ?_⟩
  simp only [spans_empty_iff]
  constructor
  · intro holds
    have j_lt : j < text.length + 1 := length_eq ▸ holds.lt
    exact ⟨j, holds, rfl, Nat.le_of_lt_succ j_lt⟩
  · rintro ⟨i, holds, rfl, -⟩
    exact holds

theorem spans_or_iff (left right : Condition) :
    Spans text (fun before s after => left before s after ∨ right before s after) i j ↔
      Spans text left i j ∨ Spans text right i j := by
  constructor
  · rintro ⟨before, s, after, text_eq, before_eq, s_eq, holds | holds⟩
    · exact .inl ⟨before, s, after, text_eq, before_eq, s_eq, holds⟩
    · exact .inr ⟨before, s, after, text_eq, before_eq, s_eq, holds⟩
  · rintro (⟨before, s, after, text_eq, before_eq, s_eq, holds⟩ |
      ⟨before, s, after, text_eq, before_eq, s_eq, holds⟩)
    · exact ⟨before, s, after, text_eq, before_eq, s_eq, .inl holds⟩
    · exact ⟨before, s, after, text_eq, before_eq, s_eq, .inr holds⟩

theorem computes_join {left right : Positions → Positions} {R S : Nat → Nat → Prop} {length : Nat}
    (left_computes : Computes length left R) (right_computes : Computes length right S) :
    Computes length (fun s => (left s).join (right s)) fun i j => R i j ∨ S i j := by
  constructor
  · intro s length_eq
    rw [Positions.join, List.length_zipWith, left_computes.length_eq s length_eq,
      right_computes.length_eq s length_eq, Nat.min_self]
  · intro s j length_eq
    rw [Positions.holds_join_iff ((left_computes.length_eq s length_eq).trans
      (right_computes.length_eq s length_eq).symm), left_computes.holds_iff s j length_eq,
      right_computes.holds_iff s j length_eq]
    simp only [and_or_left, exists_or]

/-- Repetitions are as many steps, the least number first and then the others. -/
theorem spans_repeated_iff (e : Expr) (least : Nat) (most : Option Nat) (le : i ≤ text.length) :
    Spans text (e.repeated least most).Matches i j ↔
      ∃ further, (∀ n ∈ most.map (· - least), further ≤ n) ∧
        Steps (Spans text e.Matches) (least + further) i j := by
  simp only [steps_spans_iff _ _ le, Option.mem_def, Option.map_eq_some_iff,
    forall_exists_index, and_imp, forall_apply_eq_imp_iff₂]
  constructor
  · rintro ⟨before, s, after, text_eq, before_eq, s_eq, further, further_le, holds⟩
    exact ⟨further, further_le, before, s, after, text_eq, before_eq, s_eq, holds⟩
  · rintro ⟨further, further_le, before, s, after, text_eq, before_eq, s_eq, holds⟩
    exact ⟨before, s, after, text_eq, before_eq, s_eq, further, further_le, holds⟩

theorem computes_repeated {f : Positions → Positions} {e : Expr} (least : Nat) (most : Option Nat)
    (computes : Computes (text.length + 1) f (Spans text e.Matches)) :
    Computes (text.length + 1)
      (fun s => Positions.closure f
        (min ((most.map (· - least)).getD (text.length + 1)) (text.length + 1))
        (Positions.iterate f (min least (text.length + 1)) s)
        (Positions.iterate f (min least (text.length + 1)) s))
      (Spans text (e.repeated least most).Matches) := by
  refine ((computes.iterate _).comp (computes.closure _)).congr fun i j i_lt => ?_
  rw [spans_repeated_iff e least most (Nat.le_of_lt_succ i_lt),
    ← exists_steps_iff fun i j (spans : Spans text e.Matches i j) => spans.le]
  simp only [steps_add_iff]
  constructor
  · rintro ⟨k, front, m, m_le, back⟩
    exact ⟨m, m_le, k, front, back⟩
  · rintro ⟨m, m_le, k, front, back⟩
    exact ⟨k, front, m, m_le, back⟩

/-- The matcher finds the positions where matches end. -/
theorem Expr.computes_ends (text : List Char) (e : Expr) :
    Computes (text.length + 1) (e.ends text) (Spans text e.Matches) := by
  induction e with
  | empty => exact computes_empty text
  | char cls cost => exact computes_advance text cls cost
  | look condition => exact computes_look text condition
  | seq first second first_computes second_computes =>
      exact (first_computes.comp second_computes).congr fun i j _ =>
        (spans_followedBy_iff first.Matches second.Matches).symm
  | alt left right left_computes right_computes =>
      exact (computes_join left_computes right_computes).congr fun i j _ =>
        (spans_or_iff left.Matches right.Matches).symm
  | repeated e least most computes =>
      have found := computes_repeated least most computes
      cases most with
      | none =>
          rw [Option.map_none, Option.getD_none, Nat.min_self] at found
          exact found
      | some most => exact found

/-- A text is accepted exactly if the expression matches a part of it. -/
theorem Expr.matchesIn_iff (e : Expr) (text : List Char) :
    e.matchesIn text = true ↔
      ∃ before s after, text = before ++ (s ++ after) ∧ e.Matches before s after := by
  have length_eq : (List.replicate (text.length + 1) true).length = text.length + 1 :=
    List.length_replicate
  rw [matchesIn, Positions.any_id_iff]
  simp only [(e.computes_ends text).holds_iff _ _ length_eq, Positions.holds_replicate_iff]
  constructor
  · rintro ⟨_, _, -, before, s, after, text_eq, -, -, holds⟩
    exact ⟨before, s, after, text_eq, holds⟩
  · rintro ⟨before, s, after, rfl, holds⟩
    refine ⟨_, before.length, ?_, before, s, after, rfl, rfl, rfl, holds⟩
    rw [List.length_append]
    omega

end RequestParams.Pattern
