import RequestParams.Proofs.Json.NumeralText
import RequestParams.Proofs.Json.StringText

/-!
# The grammar of JSON text

A JSON text is a word, a number, a string, or a container of such texts between commas, with blanks
around each of them, nested to any depth. Every text of the grammar is read, and as the tree that it
writes: its tokens are those of its parts, and from any stack of open containers they complete one
value and leave the stack as it was.
-/

namespace RequestParams

open Json (joinCommas)

/-! ## Texts between other texts -/

namespace JsonToken

theorem isBlank_iff (c : Char) :
    isBlank c = true ↔ c = ' ' ∨ c = '\t' ∨ c = '\n' ∨ c = '\r' := by
  simp only [isBlank, Bool.or_eq_true, beq_iff_eq, or_assoc]

/-- Nothing but blanks. -/
def IsBlanks (s : List Char) : Prop := ∀ c ∈ s, isBlank c = true

theorem isBlanks_nil : IsBlanks [] := by simp [IsBlanks]

/-- Blanks before and after a text. -/
structure Padding where
  /-- The blanks before the text. -/
  before : List Char
  /-- The blanks after the text. -/
  after : List Char
  blank_before : IsBlanks before
  blank_after : IsBlanks after

namespace Padding

/-- No blanks. -/
def none : Padding := ⟨[], [], isBlanks_nil, isBlanks_nil⟩

/-- A text with its blanks. -/
def around (padding : Padding) (s : List Char) : List Char :=
  padding.before ++ (s ++ padding.after)

theorem around_none (s : List Char) : none.around s = s := List.append_nil s

end Padding

/-- The characters are read as these tokens before anything that does not go on with a number. -/
def ReadAsIfEnded (written : List Char) (tokens : List JsonToken) : Prop :=
  ∀ rest, Numeral.Ends rest → ofChars? (written ++ rest) = (ofChars? rest).map (tokens ++ ·)

theorem ReadAs.ifEnded {written : List Char} {tokens : List JsonToken}
    (read : ReadAs written tokens) : ReadAsIfEnded written tokens :=
  fun rest _ => read rest

theorem ends_of_mark {c : Char} {mark : JsonToken} (is_mark : mark? c = some mark)
    (rest : List Char) : Numeral.Ends (c :: rest) := by
  rw [Numeral.ends_cons_iff]
  unfold mark? at is_mark
  split at is_mark <;> first | decide | cases is_mark

theorem ends_of_isBlanks {s rest : List Char} (blank : IsBlanks s) (ends : Numeral.Ends rest) :
    Numeral.Ends (s ++ rest) := by
  cases s with
  | nil => exact ends
  | cons c s =>
      have c_blank := (isBlank_iff c).mp (blank c List.mem_cons_self)
      rw [List.cons_append, Numeral.ends_cons_iff]
      rcases c_blank with rfl | rfl | rfl | rfl <;> decide

/-- A mark ends whatever stands before it. -/
theorem ReadAsIfEnded.append_mark {written : List Char} {tokens : List JsonToken} {c : Char}
    {mark : JsonToken} (read : ReadAsIfEnded written tokens) (is_mark : mark? c = some mark) :
    ReadAs (written ++ [c]) (tokens ++ [mark]) := by
  intro rest
  rw [List.append_assoc, List.singleton_append, read _ (ends_of_mark is_mark rest),
    ← List.singleton_append, readAs_mark is_mark, Option.map_map]
  simp only [Function.comp_def, List.append_assoc]

theorem ReadAs.append_ifEnded {first second : List Char} {tokens others : List JsonToken}
    (first_read : ReadAs first tokens) (second_read : ReadAsIfEnded second others) :
    ReadAsIfEnded (first ++ second) (tokens ++ others) := by
  intro rest ends
  rw [List.append_assoc, first_read, second_read rest ends, Option.map_map]
  simp only [Function.comp_def, List.append_assoc]

theorem readAs_blanks {s : List Char} (blank : IsBlanks s) : ReadAs s [] := by
  intro rest
  induction s with
  | nil => exact Option.map_id'.symm
  | cons c s induction =>
      obtain ⟨c_blank, s_blank⟩ := List.forall_mem_cons.mp blank
      rw [List.cons_append, ofChars?, if_pos c_blank]
      exact induction s_blank

theorem ReadAsIfEnded.around {written : List Char} {tokens : List JsonToken}
    (read : ReadAsIfEnded written tokens) (padding : Padding) :
    ReadAsIfEnded (padding.around written) tokens := by
  intro rest ends
  rw [Padding.around, List.append_assoc, readAs_blanks padding.blank_before, List.append_assoc,
    read _ (ends_of_isBlanks padding.blank_after ends), readAs_blanks padding.blank_after]
  simp only [List.nil_append, Option.map_id']

/-- What starts with a digit or a minus sign is no word and no string. -/
theorem takeScalar?_number {c : Char} (initial : Text.isDigit c = true ∨ c = '-')
    (rest : List Char) :
    takeScalar? (c :: rest) =
      (Numeral.take? (c :: rest)).map fun (n, rest) => (number n, rest) := by
  rw [takeScalar?.eq_def]
  split
  any_goals
    rename_i starts
    rw [(List.cons.inj starts).1] at initial
    exact absurd initial (by decide)
  rfl

theorem readAsIfEnded_number {s : List Char} {n : Numeral} (written : Numeral.Writes s n) :
    ReadAsIfEnded s [number n] := by
  intro rest ends
  obtain ⟨c, t, rfl, initial⟩ := written.exists_cons
  have not_blank : ¬isBlank c = true := by
    rw [isBlank_iff]
    rintro (rfl | rfl | rfl | rfl) <;> exact absurd initial (by decide)
  have no_mark : mark? c = none := by
    unfold mark?
    split
    all_goals first | rfl | exact absurd initial (by decide)
  have taken : takeScalar? (c :: (t ++ rest)) = some (number n, rest) := by
    rw [takeScalar?_number initial, ← List.cons_append, written.take?_append ends]
    rfl
  exact ofChars?_of_takeScalar? not_blank no_mark taken

theorem readAs_null : ReadAs ['n', 'u', 'l', 'l'] [null] := fun _ =>
  ofChars?_of_takeScalar? (by decide) rfl rfl

theorem readAs_true : ReadAs ['t', 'r', 'u', 'e'] [bool true] := fun _ =>
  ofChars?_of_takeScalar? (by decide) rfl rfl

theorem readAs_false : ReadAs ['f', 'a', 'l', 's', 'e'] [bool false] := fun _ =>
  ofChars?_of_takeScalar? (by decide) rfl rfl

end JsonToken

namespace Outline

open JsonToken

/-! ## Texts with their outlines -/

/-- A member of an object: a key and a value with their texts. -/
structure WrittenMember where
  /-- The text of the key. -/
  keyText : List Char
  /-- The units of the key. -/
  key : List StringUnit
  /-- The text of the value. -/
  valueText : List Char
  /-- The outline of the value. -/
  value : Outline

namespace WrittenMember

/-- The text of a member. -/
def chars (member : WrittenMember) : List Char := member.keyText ++ ':' :: member.valueText

/-- The key and the outline of a member. -/
def outline (member : WrittenMember) : List StringUnit × Outline := (member.key, member.value)

end WrittenMember

/-- A string with blanks around it. -/
def WritesKey (s : List Char) (units : List StringUnit) : Prop :=
  ∃ written, WritesString written units ∧ ∃ padding : Padding, s = padding.around written

/-- The grammar of JSON text. -/
inductive Writes : List Char → Outline → Prop
  | padded {s : List Char} {outline : Outline} (written : Writes s outline) (padding : Padding) :
      Writes (padding.around s) outline
  | null : Writes ['n', 'u', 'l', 'l'] .null
  | true : Writes ['t', 'r', 'u', 'e'] (.bool true)
  | false : Writes ['f', 'a', 'l', 's', 'e'] (.bool false)
  | number {s : List Char} {n : Numeral} (written : Numeral.Writes s n) : Writes s (.number n)
  | string {s : List Char} {units : List StringUnit} (written : WritesString s units) :
      Writes s (.string units)
  | emptyArray {inside : List Char} (blank : IsBlanks inside) :
      Writes ('[' :: (inside ++ [']'])) (.array [])
  | array {items : List (List Char × Outline)} (nonempty : items ≠ [])
      (written : ∀ item ∈ items, Writes item.1 item.2) :
      Writes ('[' :: (joinCommas (items.map Prod.fst) ++ [']'])) (.array (items.map Prod.snd))
  | emptyObject {inside : List Char} (blank : IsBlanks inside) :
      Writes ('\x7b' :: (inside ++ ['\x7d'])) (.object [])
  | object {members : List WrittenMember} (nonempty : members ≠ [])
      (keys : ∀ member ∈ members, WritesKey member.keyText member.key)
      (values : ∀ member ∈ members, Writes member.valueText member.value) :
      Writes ('\x7b' :: (joinCommas (members.map WrittenMember.chars) ++ ['\x7d']))
        (.object (members.map WrittenMember.outline))

/-- Members between commas are an object, also if there are none. -/
theorem writes_members {members : List WrittenMember}
    (keys : ∀ member ∈ members, WritesKey member.keyText member.key)
    (values : ∀ member ∈ members, Writes member.valueText member.value) :
    Writes ('\x7b' :: (joinCommas (members.map WrittenMember.chars) ++ ['\x7d']))
      (.object (members.map WrittenMember.outline)) := by
  cases members with
  | nil => exact .emptyObject isBlanks_nil
  | cons member members => exact .object (List.cons_ne_nil _ _) keys values

theorem WritesKey.readAs {s : List Char} {units : List StringUnit} (written : WritesKey s units) :
    ReadAs s [.string units] := by
  obtain ⟨inside, inside_written, padding, rfl⟩ := written
  have read := (readAs_blanks padding.blank_before).append
    (inside_written.readAs.append (readAs_blanks padding.blank_after))
  rwa [List.nil_append, List.append_nil] at read

/-! ## Tokens on a stack -/

/-- The tokens complete a value, whatever containers are open. -/
def Completes (tokens : List JsonToken) (outline : Outline) : Prop :=
  ∀ stack, tokens.foldlM step (.value, stack) = some (.complete outline, stack)

/-- The text is read as tokens that complete the value. -/
def ReadAsValue (s : List Char) (outline : Outline) : Prop :=
  ∃ tokens, ReadAsIfEnded s tokens ∧ Completes tokens outline

theorem Completes.foldlM_append {tokens : List JsonToken} {outline : Outline}
    (completes : Completes tokens outline) (others : List JsonToken) (stack : List Frame) :
    (tokens ++ others).foldlM step (.value, stack) =
      others.foldlM step (.complete outline, stack) := by
  rw [List.foldlM_append, completes stack]
  rfl

theorem joinCommas_cons_append (part next : List Char) (parts : List (List Char))
    (close : List Char) :
    joinCommas (part :: next :: parts) ++ close =
      part ++ [','] ++ (joinCommas (next :: parts) ++ close) := by
  simp only [joinCommas, List.append_assoc, List.cons_append, List.nil_append]

/-! ### Arrays -/

/-- A value may stand where the first item of an array may. -/
theorem foldlM_itemOrEnd {tokens : List JsonToken} {stack after : List Frame} {outline : Outline}
    (completes : tokens.foldlM step (.value, .array [] :: stack) =
      some (.complete outline, after)) :
    tokens.foldlM step (.itemOrEnd, stack) = some (.complete outline, after) := by
  cases tokens with
  | nil => cases completes
  | cons token tokens =>
      cases token <;> first | exact completes | cases completes

/-- The items that are left of an array, with its end. -/
theorem exists_items_read {items : List (List Char × Outline)} (nonempty : items ≠ [])
    (read : ∀ item ∈ items, ReadAsValue item.1 item.2) :
    ∃ tokens, ReadAs (joinCommas (items.map Prod.fst) ++ [']']) tokens ∧
      ∀ earlier stack, tokens.foldlM step (.value, .array earlier :: stack) =
        some (.complete (.array (earlier.reverse ++ items.map Prod.snd)), stack) := by
  -- By induction on the items that are left; `earlier` holds those before them, the last first.
  induction items with
  | nil => exact absurd rfl nonempty
  | cons item items induction =>
      obtain ⟨⟨tokens, tokens_read, completes⟩, items_read⟩ := List.forall_mem_cons.mp read
      cases items with
      | nil =>
          refine ⟨_, tokens_read.append_mark rfl, fun earlier stack => ?_⟩
          rw [completes.foldlM_append]
          exact congrArg (fun items => some (Phase.complete (array items), stack))
            List.reverse_cons
      | cons next items =>
          obtain ⟨others, others_read, others_complete⟩ :=
            induction (List.cons_ne_nil _ _) items_read
          have whole_read := (tokens_read.append_mark (c := ',') rfl).append others_read
          refine ⟨tokens ++ [.comma] ++ others, ?_, fun earlier stack => ?_⟩
          · rw [List.map_cons, List.map_cons, joinCommas_cons_append]
            exact whole_read
          · rw [List.append_assoc, completes.foldlM_append]
            have rest_complete := others_complete (item.2 :: earlier) stack
            rw [List.reverse_cons, List.append_assoc] at rest_complete
            exact rest_complete

theorem readAsValue_array {items : List (List Char × Outline)} (nonempty : items ≠ [])
    (read : ∀ item ∈ items, ReadAsValue item.1 item.2) :
    ReadAsValue ('[' :: (joinCommas (items.map Prod.fst) ++ [']']))
      (.array (items.map Prod.snd)) := by
  obtain ⟨tokens, tokens_read, completes⟩ := exists_items_read nonempty read
  exact ⟨.openArray :: tokens, ((readAs_mark rfl).append tokens_read).ifEnded,
    fun stack => foldlM_itemOrEnd (completes [] stack)⟩

theorem readAsValue_emptyArray {inside : List Char} (blank : IsBlanks inside) :
    ReadAsValue ('[' :: (inside ++ [']'])) (.array []) :=
  ⟨[.openArray, .closeArray],
    ((readAs_mark rfl).append ((readAs_blanks blank).append (readAs_mark rfl))).ifEnded,
    fun _ => rfl⟩

/-! ### Objects -/

theorem exists_member_read {member : WrittenMember}
    (key : WritesKey member.keyText member.key)
    (read : ReadAsValue member.valueText member.value) :
    ∃ tokens, ReadAsIfEnded member.chars (.string member.key :: .colon :: tokens) ∧
      Completes tokens member.value := by
  obtain ⟨tokens, tokens_read, completes⟩ := read
  have colon_read : ReadAs [':'] [.colon] := readAs_mark rfl
  exact ⟨tokens, key.readAs.append_ifEnded (colon_read.append_ifEnded tokens_read), completes⟩

/-- The members that are left of an object, with its end. -/
theorem exists_members_read {members : List WrittenMember} (nonempty : members ≠ [])
    (keys : ∀ member ∈ members, WritesKey member.keyText member.key)
    (read : ∀ member ∈ members, ReadAsValue member.valueText member.value) :
    ∃ key tokens,
      ReadAs (joinCommas (members.map WrittenMember.chars) ++ ['\x7d']) (.string key :: tokens) ∧
      ∀ earlier stack, tokens.foldlM step (.colon earlier key, stack) =
        some (.complete (.object (earlier.reverse ++ members.map WrittenMember.outline)),
          stack) := by
  induction members with
  | nil => exact absurd rfl nonempty
  | cons member members induction =>
      obtain ⟨key_written, keys_written⟩ := List.forall_mem_cons.mp keys
      obtain ⟨member_read, members_read⟩ := List.forall_mem_cons.mp read
      obtain ⟨tokens, tokens_read, completes⟩ := exists_member_read key_written member_read
      cases members with
      | nil =>
          have whole_read := tokens_read.append_mark (c := '\x7d') rfl
          refine ⟨member.key, .colon :: (tokens ++ [.closeObject]), ?_, fun earlier stack => ?_⟩
          · exact whole_read
          · refine (completes.foldlM_append _ (.object earlier member.key :: stack)).trans ?_
            exact congrArg (fun members => some (Phase.complete (object members), stack))
              List.reverse_cons
      | cons next members =>
          obtain ⟨key, others, others_read, others_complete⟩ :=
            induction (List.cons_ne_nil _ _) keys_written members_read
          have whole_read := (tokens_read.append_mark (c := ',') rfl).append others_read
          refine ⟨member.key, .colon :: (tokens ++ [.comma] ++ .string key :: others), ?_,
            fun earlier stack => ?_⟩
          · rw [List.map_cons, List.map_cons, joinCommas_cons_append]
            exact whole_read
          · rw [List.append_assoc]
            refine (completes.foldlM_append _ (.object earlier member.key :: stack)).trans ?_
            have rest_complete := others_complete (member.outline :: earlier) stack
            rw [List.reverse_cons, List.append_assoc] at rest_complete
            exact rest_complete

theorem readAsValue_object {members : List WrittenMember} (nonempty : members ≠ [])
    (keys : ∀ member ∈ members, WritesKey member.keyText member.key)
    (read : ∀ member ∈ members, ReadAsValue member.valueText member.value) :
    ReadAsValue ('\x7b' :: (joinCommas (members.map WrittenMember.chars) ++ ['\x7d']))
      (.object (members.map WrittenMember.outline)) := by
  obtain ⟨key, tokens, tokens_read, completes⟩ := exists_members_read nonempty keys read
  exact ⟨.openObject :: .string key :: tokens, ((readAs_mark rfl).append tokens_read).ifEnded,
    completes []⟩

theorem readAsValue_emptyObject {inside : List Char} (blank : IsBlanks inside) :
    ReadAsValue ('\x7b' :: (inside ++ ['\x7d'])) (.object []) :=
  ⟨[.openObject, .closeObject],
    ((readAs_mark rfl).append ((readAs_blanks blank).append (readAs_mark rfl))).ifEnded,
    fun _ => rfl⟩

/-! ## Whole texts -/

theorem readAsValue_of_writes {s : List Char} {outline : Outline} (written : Writes s outline) :
    ReadAsValue s outline := by
  induction written with
  | padded _ padding induction =>
      obtain ⟨tokens, read, completes⟩ := induction
      exact ⟨tokens, read.around padding, completes⟩
  | null => exact ⟨_, readAs_null.ifEnded, fun _ => rfl⟩
  | true => exact ⟨_, readAs_true.ifEnded, fun _ => rfl⟩
  | false => exact ⟨_, readAs_false.ifEnded, fun _ => rfl⟩
  | number written => exact ⟨_, readAsIfEnded_number written, fun _ => rfl⟩
  | string written => exact ⟨_, written.readAs.ifEnded, fun _ => rfl⟩
  | emptyArray blank => exact readAsValue_emptyArray blank
  | array nonempty _ induction => exact readAsValue_array nonempty induction
  | emptyObject blank => exact readAsValue_emptyObject blank
  | object nonempty keys _ induction => exact readAsValue_object nonempty keys induction

/-- Every text of the grammar is read as what it writes. -/
theorem ofChars?_of_writes {s : List Char} {outline : Outline} (written : Writes s outline) :
    ofChars? s = some outline := by
  obtain ⟨tokens, read, completes⟩ := readAsValue_of_writes written
  rw [ofChars?, ofChars?_eq_of_append_nil (read [] Numeral.ends_nil), Option.bind_some, ofTokens?,
    completes []]

end Outline

end RequestParams
