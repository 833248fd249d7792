import RequestParams.Proofs.Pattern.Matching

/-!
# Languages of patterns

Without assertions an expression matches the texts of a language wherever they stand. A sequence has
the texts that can be cut into one of each part, an alternative those of either part, a repetition
those that can be cut into so many. Between assertions for the start and the end an expression
accepts exactly the texts of its language.
-/

namespace RequestParams.Pattern

/-- Wherever it stands, a part meets the condition exactly if it is in the language. -/
def Condition.Spells (condition : Condition) (L : List Char → Prop) : Prop :=
  ∀ before s after, condition before s after ↔ L s

/-- The text is one of the first language and one of the second. -/
def Joined (L M : List Char → Prop) (s : List Char) : Prop :=
  ∃ front back, s = front ++ back ∧ L front ∧ M back

/-- The text is made of so many texts of the language. -/
def Repeated (L : List Char → Prop) (n : Nat) (s : List Char) : Prop :=
  ∃ parts : List (List Char), parts.length = n ∧ (∀ part ∈ parts, L part) ∧ s = parts.flatten

namespace Condition.Spells

variable {condition first second : Condition} {L M : List Char → Prop}

theorem followedBy (first_spells : first.Spells L) (second_spells : second.Spells M) :
    (first.followedBy second).Spells (Joined L M) := by
  intro before s after
  constructor
  · rintro ⟨front, back, s_eq, front_holds, back_holds⟩
    exact ⟨front, back, s_eq, (first_spells _ _ _).mp front_holds,
      (second_spells _ _ _).mp back_holds⟩
  · rintro ⟨front, back, s_eq, front_mem, back_mem⟩
    exact ⟨front, back, s_eq, (first_spells _ _ _).mpr front_mem,
      (second_spells _ _ _).mpr back_mem⟩

theorem congr (spells : condition.Spells L) (same : ∀ s, L s ↔ M s) : condition.Spells M :=
  fun before s after => (spells before s after).trans (same s)

theorem times (spells : condition.Spells L) (n : Nat) :
    (condition.times n).Spells (Repeated L n) := by
  induction n with
  | zero =>
      intro _ s _
      constructor
      · rintro rfl
        exact ⟨[], rfl, List.forall_mem_nil L, rfl⟩
      · rintro ⟨parts, length_eq, -, rfl⟩
        rw [List.length_eq_zero_iff.mp length_eq]
        rfl
  | succ n induction =>
      refine (spells.followedBy induction).congr fun s => ?_
      constructor
      · rintro ⟨front, _, rfl, front_mem, parts, rfl, parts_mem, rfl⟩
        exact ⟨front :: parts, rfl, List.forall_mem_cons.mpr ⟨front_mem, parts_mem⟩, rfl⟩
      · rintro ⟨parts, length_eq, parts_mem, rfl⟩
        obtain ⟨front, parts, rfl⟩ := List.exists_cons_of_length_eq_add_one length_eq
        obtain ⟨front_mem, rest_mem⟩ := List.forall_mem_cons.mp parts_mem
        exact ⟨front, _, rfl, front_mem, parts, Nat.succ.inj length_eq, rest_mem, rfl⟩

end Condition.Spells

theorem Condition.followedBy_assoc (first second third : Condition) :
    (first.followedBy second).followedBy third = first.followedBy (second.followedBy third) := by
  funext before s after
  rw [eq_iff_iff]
  constructor
  · rintro ⟨_, back, rfl, ⟨front, middle, rfl, front_holds, middle_holds⟩, back_holds⟩
    rw [← List.append_assoc] at back_holds
    refine ⟨front, middle ++ back, List.append_assoc _ _ _, ?_, middle, back, rfl, middle_holds,
      back_holds⟩
    rwa [List.append_assoc]
  · rintro ⟨front, _, rfl, front_holds, middle, back, rfl, middle_holds, back_holds⟩
    rw [List.append_assoc] at back_holds front_holds
    exact ⟨front ++ middle, back, (List.append_assoc _ _ _).symm,
      ⟨front, middle, rfl, front_holds, middle_holds⟩, back_holds⟩

namespace Expr

/-- Expressions one after the other. -/
def seqs : List Expr → Expr := List.foldr seq empty

theorem matches_seqs_append (front back : List Expr) :
    (seqs (front ++ back)).Matches = (seqs front).Matches.followedBy (seqs back).Matches := by
  induction front with
  | nil =>
      funext before s after
      rw [eq_iff_iff]
      constructor
      · intro holds
        exact ⟨[], s, rfl, rfl, by rwa [List.append_nil]⟩
      · rintro ⟨_, back, rfl, rfl, holds⟩
        rwa [List.append_nil] at holds
  | cons e front induction =>
      have cons_eq : ∀ es, (seqs (e :: es)).Matches = e.Matches.followedBy (seqs es).Matches :=
        fun _ => rfl
      rw [List.cons_append, cons_eq, cons_eq, induction, Condition.followedBy_assoc]

/-- The expression matches the texts of a language wherever they stand. -/
def Spells (e : Expr) (L : List Char → Prop) : Prop := e.Matches.Spells L

variable {e f : Expr} {es fs : List Expr} {L M : List Char → Prop}

theorem Spells.congr (spells : e.Spells L) (same : ∀ s, L s ↔ M s) : e.Spells M :=
  Condition.Spells.congr spells same

theorem spells_nil : (seqs []).Spells (· = []) := fun _ _ _ => Iff.rfl

theorem Spells.cons (spells : e.Spells L) (es_spell : (seqs es).Spells M) :
    (seqs (e :: es)).Spells (Joined L M) :=
  Condition.Spells.followedBy spells es_spell

theorem Spells.append (es_spell : (seqs es).Spells L) (fs_spell : (seqs fs).Spells M) :
    (seqs (es ++ fs)).Spells (Joined L M) := by
  rw [Spells, matches_seqs_append]
  exact Condition.Spells.followedBy es_spell fs_spell

theorem spells_char (cls : CharClass) (cost : Nat) :
    (char cls cost).Spells fun s => ∃ c, s = [c] ∧ cls c = true :=
  fun _ _ _ => Iff.rfl

theorem Spells.alt (spells : e.Spells L) (other_spells : f.Spells M) :
    (e.alt f).Spells fun s => L s ∨ M s :=
  fun before s after => or_congr (spells before s after) (other_spells before s after)

theorem Spells.repeated (spells : e.Spells L) (least : Nat) (most : Option Nat) :
    (e.repeated least most).Spells fun s =>
      ∃ further, (∀ n ∈ most, further ≤ n - least) ∧ Repeated L (least + further) s := by
  intro before s after
  constructor
  · rintro ⟨further, further_le, holds⟩
    exact ⟨further, further_le, (spells.times _ before s after).mp holds⟩
  · rintro ⟨further, further_le, s_mem⟩
    exact ⟨further, further_le, (spells.times _ before s after).mpr s_mem⟩

/-- Any number of texts of the language. -/
theorem Spells.star (spells : e.Spells L) :
    (e.repeated 0 none).Spells fun s =>
      ∃ parts : List (List Char), (∀ part ∈ parts, L part) ∧ s = parts.flatten := by
  refine (spells.repeated 0 none).congr fun s => ?_
  constructor
  · rintro ⟨further, -, parts, -, parts_mem, rfl⟩
    exact ⟨parts, parts_mem, rfl⟩
  · rintro ⟨parts, parts_mem, rfl⟩
    exact ⟨parts.length, by simp, parts, (Nat.zero_add _).symm, parts_mem, rfl⟩

/-- At most one text of the language. -/
theorem Spells.optional (spells : e.Spells L) :
    (e.repeated 0 (some 1)).Spells fun s => s = [] ∨ L s := by
  refine (spells.repeated 0 (some 1)).congr fun s => ?_
  constructor
  · rintro ⟨further, further_le, parts, length_eq, parts_mem, rfl⟩
    have length_le := further_le 1 rfl
    match parts with
    | [] => exact .inl rfl
    | [part] =>
        rw [List.flatten_singleton]
        exact .inr (parts_mem part List.mem_cons_self)
    | _ :: _ :: _ =>
        simp only [List.length_cons] at length_eq
        omega
  · rintro (rfl | s_mem)
    · exact ⟨0, by simp, [], rfl, List.forall_mem_nil L, rfl⟩
    · exact ⟨1, by simp, [s], rfl, List.forall_mem_singleton.mpr s_mem, List.flatten_singleton.symm⟩

theorem repeated_single_iff (cls : CharClass) (n : Nat) (s : List Char) :
    Repeated (fun s => ∃ c, s = [c] ∧ cls c = true) n s ↔
      s.length = n ∧ ∀ c ∈ s, cls c = true := by
  constructor
  · rintro ⟨parts, rfl, parts_mem, rfl⟩
    induction parts with
    | nil => exact ⟨rfl, List.forall_mem_nil _⟩
    | cons part parts induction =>
        obtain ⟨⟨c, rfl, in_class⟩, rest_mem⟩ := List.forall_mem_cons.mp parts_mem
        obtain ⟨length_eq, all_class⟩ := induction rest_mem
        exact ⟨congrArg Nat.succ length_eq, List.forall_mem_cons.mpr ⟨in_class, all_class⟩⟩
  · rintro ⟨rfl, all_class⟩
    refine ⟨s.map fun c => [c], List.length_map _, ?_, ?_⟩
    · exact List.forall_mem_map.mpr fun c c_mem => ⟨c, rfl, all_class c c_mem⟩
    · rw [← List.flatMap_def, List.flatMap_singleton']

/-- Characters of a class, of which there are so many. -/
theorem spells_run (cls : CharClass) (cost : Nat) {least most : Nat} (le : least ≤ most) :
    ((char cls cost).repeated least (some most)).Spells fun s =>
      least ≤ s.length ∧ s.length ≤ most ∧ ∀ c ∈ s, cls c = true := by
  refine ((spells_char cls cost).repeated least (some most)).congr fun s => ?_
  simp only [repeated_single_iff]
  constructor
  · rintro ⟨further, further_le, length_eq, all_class⟩
    have within := further_le most rfl
    exact ⟨by omega, by omega, all_class⟩
  · rintro ⟨least_le, le_most, all_class⟩
    refine ⟨s.length - least, fun n n_mem => ?_, (Nat.add_sub_of_le least_le).symm, all_class⟩
    obtain rfl := Option.some.inj n_mem
    exact Nat.sub_le_sub_right le_most least

theorem spells_long_run (cls : CharClass) (cost least : Nat) :
    ((char cls cost).repeated least none).Spells fun s =>
      least ≤ s.length ∧ ∀ c ∈ s, cls c = true := by
  refine ((spells_char cls cost).repeated least none).congr fun s => ?_
  simp only [repeated_single_iff]
  constructor
  · rintro ⟨further, -, length_eq, all_class⟩
    exact ⟨by omega, all_class⟩
  · rintro ⟨least_le, all_class⟩
    exact ⟨s.length - least, by simp, (Nat.add_sub_of_le least_le).symm, all_class⟩

/-- Between assertions for the start and the end of a text an expression accepts the texts of its
language. -/
theorem matchesIn_anchored_iff (spells : (seqs es).Spells L) (s : List Char) :
    (seqs (look .textStart :: es ++ [look .textEnd])).matchesIn s = true ↔ L s := by
  have matches_eq : (seqs (look .textStart :: es ++ [look .textEnd])).Matches =
      (look .textStart).Matches.followedBy
        ((seqs es).Matches.followedBy (seqs [look .textEnd]).Matches) := by
    rw [← matches_seqs_append]
    rfl
  rw [matchesIn_iff, matches_eq]
  constructor
  · rintro ⟨before, _, after, rfl, _, _, rfl, ⟨rfl, starts⟩, body, _, rfl, body_holds, _, _, rfl,
      ⟨rfl, ends⟩, rfl⟩
    obtain rfl : before = [] := List.getLast?_eq_none_iff.mp (Option.isNone_iff_eq_none.mp starts)
    obtain rfl : after = [] := List.head?_eq_none_iff.mp (Option.isNone_iff_eq_none.mp ends)
    simpa using (spells _ _ _).mp body_holds
  · intro s_mem
    exact ⟨[], s, [], (List.append_nil s).symm, [], s, rfl, ⟨rfl, rfl⟩, s, [],
      (List.append_nil s).symm, (spells _ _ _).mpr s_mem, [], [], rfl, ⟨rfl, rfl⟩, rfl⟩

end Expr

end RequestParams.Pattern
