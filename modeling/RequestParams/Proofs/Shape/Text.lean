import RequestParams.Proofs.Shape.Origins

/-!
# Texts of shapes

The text of a shape ends where the shape does: it is not the beginning of another text, so that the
members of a union are read back one by one, to any depth. From its right end alone it is not known,
since `(int)` is a shape and also the end of `List(int)`. But a space inside a text stands next to a
bar, so that any other space before a text marks where it begins.
-/

namespace RequestParams.Shape

/-! ## Characters of texts -/

/-- The character that the text of a shape begins with. -/
def initial : Shape → Char
  | scalar .int => 'i'
  | scalar .str => 's'
  | scalar .float => 'f'
  | scalar .bool => 'b'
  | list _ => 'L'
  | dict _ => 'D'
  | file => 'F'
  | any => 'A'
  | union _ => '('

/-- The texts of members behind the first one, each with a bar before it. -/
def laterText (members : List Shape) : List Char :=
  members.flatMap fun member => [' ', '|', ' '] ++ member.text.toList

/-- The text of a union between its parentheses. -/
def membersText : List Shape → List Char
  | [] => []
  | first :: later => first.text.toList ++ laterText later

theorem toList_joinBars (members : List Shape) :
    (joinBars (texts members)).toList = membersText members := by
  induction members with
  | nil => rfl
  | cons first later induction =>
      cases later with
      | nil => simp [joinBars, texts, membersText, laterText]
      | cons next later =>
          simp only [joinBars, texts] at induction ⊢
          rw [String.intercalate_cons_cons, String.toList_append, String.toList_append, induction,
            List.append_assoc]
          rfl

theorem toList_text_list (item : Shape) :
    (list item).text.toList = ['L', 'i', 's', 't', '('] ++ (item.text.toList ++ [')']) := by
  simp [text]

theorem toList_text_dict (item : Shape) :
    (dict item).text.toList = ['D', 'i', 'c', 't', '('] ++ (item.text.toList ++ [')']) := by
  simp [text]

theorem toList_text_union (members : List Shape) :
    (union members).text.toList = ['('] ++ (membersText members ++ [')']) := by
  simp [text, toList_joinBars]

theorem head?_toList_text (shape : Shape) : shape.text.toList.head? = some shape.initial := by
  cases shape with
  | scalar kind => cases kind <;> rfl
  | list item => simp [toList_text_list, initial]
  | dict item => simp [toList_text_dict, initial]
  | file => rfl
  | any => rfl
  | union members => simp [toList_text_union, initial]

theorem initial_ne (shape : Shape) : shape.initial ≠ ')' ∧ shape.initial ≠ '|' := by
  cases shape with
  | scalar kind => cases kind <;> decide
  | _ => simp [initial]

/-! ## Reading from the left -/

/-- Built by the same constructor; scalars are the same. -/
inductive SameForm : Shape → Shape → Prop
  | scalar (kind : Scalar) : SameForm (.scalar kind) (.scalar kind)
  | list (item other : Shape) : SameForm (.list item) (.list other)
  | dict (item other : Shape) : SameForm (.dict item) (.dict other)
  | file : SameForm .file .file
  | any : SameForm .any .any
  | union (members others : List Shape) : SameForm (.union members) (.union others)

/-- Whatever stands behind the text of the shape, no other text is read in its place. -/
def IsReadBack (shape : Shape) : Prop :=
  ∀ other rest left, shape.text.toList ++ rest = other.text.toList ++ left →
    shape = other ∧ rest = left

theorem sameForm_of_initial_eq : ∀ {shape other : Shape},
    shape.initial = other.initial → shape.SameForm other
  | scalar .int, scalar .int, _ => .scalar _
  | scalar .str, scalar .str, _ => .scalar _
  | scalar .float, scalar .float, _ => .scalar _
  | scalar .bool, scalar .bool, _ => .scalar _
  | list item, list other, _ => .list item other
  | dict item, dict other, _ => .dict item other
  | file, file, _ => .file
  | any, any, _ => .any
  | union members, union others, _ => .union members others

/-- The first character of a text tells the constructor. -/
theorem sameForm_of_text_append {shape other : Shape} {rest left : List Char}
    (same : shape.text.toList ++ rest = other.text.toList ++ left) : shape.SameForm other := by
  apply sameForm_of_initial_eq
  have head_eq := congrArg List.head? same
  rw [List.head?_append, List.head?_append, head?_toList_text, head?_toList_text] at head_eq
  exact Option.some.inj head_eq

theorem text_append_ne_close (shape : Shape) (rest left : List Char) :
    shape.text.toList ++ rest ≠ ')' :: left := by
  intro same
  have head_eq := congrArg List.head? same
  rw [List.head?_append, head?_toList_text] at head_eq
  exact shape.initial_ne.1 (Option.some.inj head_eq)

/-- A shape that nothing else has the form of is read back. -/
theorem isReadBack_leaf {leaf : Shape} (only : ∀ other, leaf.SameForm other → leaf = other) :
    leaf.IsReadBack := by
  intro other rest left same
  obtain rfl := only other (sameForm_of_text_append same)
  exact ⟨rfl, List.append_cancel_left same⟩

/-- A container is read back if its item is. -/
theorem isReadBack_container {container : Shape → Shape} {opening : List Char}
    (opens : ∀ item, (container item).text.toList = opening ++ (item.text.toList ++ [')']))
    (form : ∀ item other, (container item).SameForm other → ∃ inner, other = container inner)
    {item : Shape} (item_read : item.IsReadBack) : (container item).IsReadBack := by
  intro other rest left same
  obtain ⟨inner, rfl⟩ := form item other (sameForm_of_text_append same)
  rw [opens, opens, List.append_assoc, List.append_assoc, List.append_assoc,
    List.append_assoc] at same
  obtain ⟨rfl, same_end⟩ := item_read inner _ _ (List.append_cancel_left same)
  exact ⟨rfl, List.append_cancel_left same_end⟩

/-- Members behind the first one are read back one by one, up to the closing parenthesis. -/
theorem eq_of_laterText_append {members others : List Shape}
    (each : ∀ member ∈ members, member.IsReadBack) {rest left : List Char}
    (same : laterText members ++ ')' :: rest = laterText others ++ ')' :: left) :
    members = others ∧ rest = left := by
  induction members generalizing others with
  | nil =>
      cases others with
      | nil => exact ⟨rfl, (List.cons.inj same).2⟩
      | cons other others => cases same
  | cons member members induction =>
      cases others with
      | nil => cases same
      | cons other others =>
          obtain ⟨member_read, rest_read⟩ := List.forall_mem_cons.mp each
          simp only [laterText, List.flatMap_cons, List.append_assoc] at same
          obtain ⟨rfl, same_later⟩ := member_read other _ _ (List.append_cancel_left same)
          obtain ⟨rfl, same_rest⟩ := induction rest_read same_later
          exact ⟨rfl, same_rest⟩

theorem eq_of_membersText_append {members others : List Shape}
    (each : ∀ member ∈ members, member.IsReadBack) {rest left : List Char}
    (same : membersText members ++ ')' :: rest = membersText others ++ ')' :: left) :
    members = others ∧ rest = left := by
  cases members with
  | nil =>
      cases others with
      | nil => exact ⟨rfl, (List.cons.inj same).2⟩
      | cons other others =>
          rw [membersText, membersText, List.append_assoc] at same
          exact absurd same.symm (other.text_append_ne_close _ _)
  | cons member members =>
      cases others with
      | nil =>
          rw [membersText, membersText, List.append_assoc] at same
          exact absurd same (member.text_append_ne_close _ _)
      | cons other others =>
          obtain ⟨member_read, rest_read⟩ := List.forall_mem_cons.mp each
          rw [membersText, membersText, List.append_assoc, List.append_assoc] at same
          obtain ⟨rfl, same_later⟩ := member_read other _ _ same
          obtain ⟨rfl, same_rest⟩ := eq_of_laterText_append rest_read same_later
          exact ⟨rfl, same_rest⟩

/-- The text of a shape is known from the left, whatever stands behind it. -/
theorem isReadBack (shape : Shape) : shape.IsReadBack := by
  induction shape with
  | scalar kind =>
      apply isReadBack_leaf
      rintro other ⟨⟩
      rfl
  | list item induction =>
      apply isReadBack_container toList_text_list _ induction
      rintro item other ⟨⟩
      exact ⟨_, rfl⟩
  | dict item induction =>
      apply isReadBack_container toList_text_dict _ induction
      rintro item other ⟨⟩
      exact ⟨_, rfl⟩
  | file =>
      apply isReadBack_leaf
      rintro other ⟨⟩
      rfl
  | any =>
      apply isReadBack_leaf
      rintro other ⟨⟩
      rfl
  | union members induction =>
      intro other rest left same
      cases sameForm_of_text_append same with
      | union _ others =>
          simp only [toList_text_union, List.append_assoc] at same
          obtain ⟨rfl, same_rest⟩ :=
            eq_of_membersText_append induction (List.append_cancel_left same)
          exact ⟨rfl, same_rest⟩

theorem text_injective : Function.Injective text := by
  intro shape other same
  apply (shape.isReadBack other [] [] _).1
  rw [same]

/-! ## Reading from the right -/

/-- Each space stands next to a bar. -/
def SpacedByBars (s : List Char) : Prop :=
  ∀ before after, s = before ++ ' ' :: after →
    before.getLast? = some '|' ∨ after.head? = some '|'

theorem spacedByBars_of_not_mem {s : List Char} (free : ' ' ∉ s) : SpacedByBars s := by
  rintro before after rfl
  exact absurd List.mem_append_cons_self free

theorem spacedByBars_bar : SpacedByBars [' ', '|', ' ']
  | [], _, split => by
      obtain rfl := (List.cons.inj split).2
      exact .inr rfl
  | [_, _], _, split => by
      cases split
      exact .inl rfl
  | _ :: _ :: _ :: _, _, split => by simp at split

theorem SpacedByBars.append {s t : List Char} (spaced : SpacedByBars s)
    (other_spaced : SpacedByBars t) : SpacedByBars (s ++ t) := by
  intro before after split
  rcases List.append_eq_append_iff.mp split with ⟨middle, rfl, t_eq⟩ | ⟨middle, s_eq, after_eq⟩
  · rcases other_spaced middle after t_eq with last | next
    · exact .inl (by rw [List.getLast?_append, last]; rfl)
    · exact .inr next
  · cases middle with
    | nil =>
        -- The space is the first character of the second text, so that a bar follows.
        rcases other_spaced [] after after_eq.symm with last | next
        · cases last
        · exact .inr next
    | cons c middle =>
        rw [List.cons_append] at after_eq
        obtain ⟨rfl, rfl⟩ := List.cons.inj after_eq
        rcases spaced before middle s_eq with last | next
        · exact .inl last
        · exact .inr (by rw [List.head?_append, next]; rfl)

theorem spacedByBars_laterText {members : List Shape}
    (each : ∀ member ∈ members, SpacedByBars member.text.toList) :
    SpacedByBars (laterText members) := by
  induction members with
  | nil => exact spacedByBars_of_not_mem List.not_mem_nil
  | cons member members induction =>
      obtain ⟨member_spaced, rest_spaced⟩ := List.forall_mem_cons.mp each
      exact (spacedByBars_bar.append member_spaced).append (induction rest_spaced)

theorem spacedByBars_membersText {members : List Shape}
    (each : ∀ member ∈ members, SpacedByBars member.text.toList) :
    SpacedByBars (membersText members) := by
  cases members with
  | nil => exact spacedByBars_of_not_mem List.not_mem_nil
  | cons first later =>
      obtain ⟨first_spaced, later_spaced⟩ := List.forall_mem_cons.mp each
      exact first_spaced.append (spacedByBars_laterText later_spaced)

theorem SpacedByBars.enclose {inside : List Char} (spaced : SpacedByBars inside)
    {opening closing : List Char} (opening_free : ' ' ∉ opening) (closing_free : ' ' ∉ closing) :
    SpacedByBars (opening ++ (inside ++ closing)) :=
  (spacedByBars_of_not_mem opening_free).append
    (spaced.append (spacedByBars_of_not_mem closing_free))

/-- The spaces of a text stand next to the bars between the members of its unions. -/
theorem spacedByBars_text (shape : Shape) : SpacedByBars shape.text.toList := by
  induction shape with
  | scalar kind => exact spacedByBars_of_not_mem (by cases kind <;> decide)
  | list item induction =>
      rw [toList_text_list]
      exact induction.enclose (by decide) (by decide)
  | dict item induction =>
      rw [toList_text_dict]
      exact induction.enclose (by decide) (by decide)
  | file => exact spacedByBars_of_not_mem (by decide)
  | any => exact spacedByBars_of_not_mem (by decide)
  | union members induction =>
      rw [toList_text_union]
      exact (spacedByBars_membersText induction).enclose (by decide) (by decide)

/-- A text does not end in another one that stands behind a space, unless the space is behind a
bar. -/
theorem eq_nil_of_space_text {shape other : Shape} {front middle : List Char}
    (front_end : (front ++ middle).getLast? ≠ some '|')
    (split : ' ' :: shape.text.toList = middle ++ ' ' :: other.text.toList) : middle = [] := by
  cases middle with
  | nil => rfl
  | cons c middle =>
      obtain ⟨rfl, text_eq⟩ := List.cons.inj split
      rcases shape.spacedByBars_text middle _ text_eq with last | next
      · rw [List.append_cons, List.getLast?_append, last] at front_end
        exact absurd rfl front_end
      · rw [head?_toList_text] at next
        exact absurd (Option.some.inj next) other.initial_ne.2

/-- The text of a shape is known from the right, if it stands behind a space and not in the middle
of a union: the space is where the text begins. -/
theorem eq_of_space_text {front back : List Char} (front_end : front.getLast? ≠ some '|')
    (back_end : back.getLast? ≠ some '|') {shape other : Shape}
    (same : front ++ ' ' :: shape.text.toList = back ++ ' ' :: other.text.toList) :
    shape = other := by
  apply text_injective
  apply String.toList_injective
  rcases List.append_eq_append_iff.mp same with ⟨middle, rfl, split⟩ | ⟨middle, rfl, split⟩
  · obtain rfl := eq_nil_of_space_text back_end split
    exact (List.cons.inj split).2
  · obtain rfl := eq_nil_of_space_text front_end split
    exact (List.cons.inj split).2.symm

end RequestParams.Shape
