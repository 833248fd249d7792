import RequestParams.Proofs.Shape.Construction
import RequestParams.Proofs.Shape.Text
import RequestParams.Proofs.Validation.Verdict

/-!
# Shapes printed in errors

Three errors print a shape: that of a shape that does not suit its place, that of a default without
the declared shape, and that of a value without it. The text they print is that of one shape only,
which is the declared one or the file type inside it. The message as a whole tells that shape too,
although names of fields, texts of defaults and reasons stand in it as they are and may look like
the rest of a message.
-/

namespace RequestParams

/-! ## Texts cut at a mark -/

namespace Text

theorem eq_nil_of_mark_free {mark : Char} {front middle rest left : List Char}
    (free : mark ∉ front ++ middle) (split : mark :: rest = middle ++ mark :: left) :
    middle = [] := by
  cases middle with
  | nil => rfl
  | cons c middle =>
      obtain ⟨rfl, -⟩ := List.cons.inj split
      exact absurd List.mem_append_cons_self free

/-- A text is cut in one way at a mark that does not occur before the cut. -/
theorem eq_of_append_first_mark {mark : Char} {front back rest left : List Char}
    (front_free : mark ∉ front) (back_free : mark ∉ back)
    (same : front ++ mark :: rest = back ++ mark :: left) : front = back ∧ rest = left := by
  rcases List.append_eq_append_iff.mp same with ⟨middle, rfl, split⟩ | ⟨middle, rfl, split⟩
  · obtain rfl := eq_nil_of_mark_free back_free split
    exact ⟨(List.append_nil front).symm, (List.cons.inj split).2⟩
  · obtain rfl := eq_nil_of_mark_free front_free split
    exact ⟨List.append_nil back, (List.cons.inj split).2.symm⟩

/-- A text is cut in one way at a mark that does not occur behind the cut. -/
theorem eq_of_append_last_mark {mark : Char} {front back rest left : List Char}
    (rest_free : mark ∉ rest) (left_free : mark ∉ left)
    (same : front ++ mark :: rest = back ++ mark :: left) : front = back ∧ rest = left := by
  have reversed := congrArg List.reverse same
  simp only [List.reverse_append, List.reverse_cons, List.append_assoc,
    List.singleton_append] at reversed
  obtain ⟨same_rest, same_front⟩ := eq_of_append_first_mark
    (mt List.mem_reverse.mp rest_free) (mt List.mem_reverse.mp left_free) reversed
  exact ⟨List.reverse_inj.mp same_front, List.reverse_inj.mp same_rest⟩

end Text

/-! ## Messages -/

theorem Value.space_not_mem_kindName (value : Value) : ' ' ∉ value.kindName.toList := by
  cases value <;> (rw [kindName]; decide)

namespace ConfigError

/-- The text of a shape that an error prints. -/
def printedShape? : ConfigError → Option String
  | invalidShape _ shape _ | invalidDefault _ shape => some shape
  | _ => none

theorem printedShape?_eq_some_iff (e : ConfigError) (printed : String) :
    e.printedShape? = some printed ↔
      (∃ source reason, e = .invalidShape source printed reason) ∨
        ∃ default, e = .invalidDefault default printed := by
  cases e <;> simp [printedShape?, eq_comm]

theorem colon_not_mem_sourceLabel (source : Option Source) :
    ':' ∉ (sourceLabel source).toList := by
  cases source with
  | none => decide
  | some source => cases source <;> decide

theorem message_invalidShape (source : Option Source) (printed reason : String) :
    (invalidShape source printed reason).message =
      "\"annotation\" is invalid for " ++ sourceLabel source ++ ": " ++ printed ++
        " (" ++ reason ++ ")" := rfl

theorem message_invalidDefault (default printed : String) :
    (invalidDefault default printed).message =
      "\"default\" " ++ default ++ " is not matched with \"annotation\" " ++ printed := rfl

theorem toList_message_invalidShape (source : Option Source) (printed reason : String) :
    (invalidShape source printed reason).message.toList =
      "\"annotation\" is invalid for ".toList ++ ((sourceLabel source).toList ++
        ':' :: ([' '] ++ (printed.toList ++ (" (" ++ reason ++ ")").toList))) := by
  simp [message_invalidShape]

theorem toList_message_invalidDefault (default printed : String) :
    (invalidDefault default printed).message.toList =
      ("\"default\" " ++ default ++ " is not matched with \"annotation\"").toList ++
        ' ' :: printed.toList := by
  simp [message_invalidDefault]

/-- Behind the first colon of the message stands the shape, and the reason may be any text. -/
theorem eq_of_message_invalidShape {source otherSource : Option Source} {shape other : Shape}
    {reason otherReason : String}
    (same : (invalidShape source shape.text reason).message =
      (invalidShape otherSource other.text otherReason).message) : shape = other := by
  have same_chars := congrArg String.toList same
  rw [toList_message_invalidShape, toList_message_invalidShape] at same_chars
  obtain ⟨-, same_end⟩ := Text.eq_of_append_first_mark (colon_not_mem_sourceLabel source)
    (colon_not_mem_sourceLabel otherSource) (List.append_cancel_left same_chars)
  exact (shape.isReadBack other _ _ (List.append_cancel_left same_end)).1

theorem getLast?_beforeShape_ne_bar (default : String) :
    ("\"default\" " ++ default ++ " is not matched with \"annotation\"").toList.getLast? ≠
      some '|' := by
  simp [List.getLast?_cons]

/-- The shape stands at the end of the message, and the default may be any text. -/
theorem eq_of_message_invalidDefault {default otherDefault : String} {shape other : Shape}
    (same : (invalidDefault default shape.text).message =
      (invalidDefault otherDefault other.text).message) : shape = other := by
  have same_chars := congrArg String.toList same
  rw [toList_message_invalidDefault, toList_message_invalidDefault] at same_chars
  exact Shape.eq_of_space_text (getLast?_beforeShape_ne_bar default)
    (getLast?_beforeShape_ne_bar otherDefault) same_chars

theorem message_invalidShape_ne_invalidDefault (source : Option Source)
    (printed reason default other : String) :
    (invalidShape source printed reason).message ≠ (invalidDefault default other).message := by
  intro same
  have same_chars := congrArg String.toList same
  simp [message_invalidShape, message_invalidDefault] at same_chars

/-- Errors with the same message print the same shape. -/
theorem eq_of_message_eq {e f : ConfigError} {shape other : Shape}
    (prints : e.printedShape? = some shape.text) (other_prints : f.printedShape? = some other.text)
    (same : e.message = f.message) : shape = other := by
  rcases (e.printedShape?_eq_some_iff _).mp prints with ⟨source, reason, rfl⟩ | ⟨default, rfl⟩ <;>
    rcases (f.printedShape?_eq_some_iff _).mp other_prints with
      ⟨otherSource, otherReason, rfl⟩ | ⟨otherDefault, rfl⟩
  · exact eq_of_message_invalidShape same
  · exact absurd same (message_invalidShape_ne_invalidDefault _ _ _ _ _)
  · exact absurd same.symm (message_invalidShape_ne_invalidDefault _ _ _ _ _)
  · exact eq_of_message_invalidDefault same

end ConfigError

namespace ValidationError

/-- The text of a shape that an error prints. -/
def printedShape? : ValidationError → Option String
  | typeMismatch _ _ expected _ => some expected.text
  | _ => none

theorem toList_message_typeMismatch (source : Source) (name : String) (expected : Shape)
    (found : String) :
    (typeMismatch source name expected found).message.toList =
      (((location source name ++ "does not match declared type").toList ++
        ' ' :: expected.text.toList) ++ " (got".toList) ++ ' ' :: (found.toList ++ [')']) := by
  simp [message]

/-- Before the kind of the value, which has no spaces, stands the shape, and the name of the field
may be any text. -/
theorem eq_of_message_typeMismatch {source otherSource : Source} {name otherName : String}
    {shape other : Shape} {value otherValue : Value}
    (same : (typeMismatch source name shape value.kindName).message =
      (typeMismatch otherSource otherName other otherValue.kindName).message) : shape = other := by
  have same_chars := congrArg String.toList same
  rw [toList_message_typeMismatch, toList_message_typeMismatch] at same_chars
  have free : ∀ value : Value, ' ' ∉ value.kindName.toList ++ [')'] := by
    intro value
    simp [value.space_not_mem_kindName]
  obtain ⟨same_front, -⟩ := Text.eq_of_append_last_mark (free value) (free otherValue) same_chars
  exact Shape.eq_of_space_text (by simp) (by simp) (List.append_cancel_right same_front)

end ValidationError

/-! ## Errors that come about -/

namespace Shape

/-- The errors about a shape: of the constructors that build it, and of a declaration with it. -/
inductive IsRefused : Shape → ConfigError → Prop
  /-- A list is not built. -/
  | listOf {item : Shape} {e : ConfigError} (refused : listOf item = .error e) :
      IsRefused (.list item) e
  /-- A mapping is not built. -/
  | dictOf {item : Shape} {e : ConfigError} (refused : dictOf item = .error e) :
      IsRefused (.dict item) e
  /-- A union is not built. -/
  | unionOf {members : List Shape} {e : ConfigError} (refused : unionOf members = .error e) :
      IsRefused (.union members) e
  /-- A parameter is not built. -/
  | declared {d : Declaration} {e : ConfigError} (refused : d.build.result = .error e) :
      IsRefused d.shape e

/-- What an error about a shape prints: the shape, or the file type inside it. -/
def Prints (whole : Shape) (printed : String) : Prop :=
  printed = whole.text ∨ .file ∈ whole.parts ∧ printed = file.text

theorem prints_of_nestedDefect? {shape whole : Shape} {e : ConfigError} {printed : String}
    (defect : shape.nestedDefect? = some e) (inside : ∀ part ∈ shape.parts, part ∈ whole.parts)
    (prints : e.printedShape? = some printed) : whole.Prints printed := by
  rcases (nestedDefect?_eq_some_iff shape e).mp defect with ⟨-, rfl⟩ | ⟨first, rfl⟩
  · cases prints
  · cases prints
    exact .inr ⟨inside _ first.mem, rfl⟩

theorem prints_of_build {d : Declaration} {e : ConfigError} {printed : String}
    (refused : d.build.result = .error e) (prints : e.printedShape? = some printed) :
    d.shape.Prints printed := by
  cases (d.build_eq_error_iff e).mp refused with
  | shape broken fault =>
      cases fault with
      | emptyUnion first => cases prints
      | nestedFile nested first =>
          cases prints
          exact .inr ⟨first.mem, rfl⟩
      | file whole =>
          cases prints
          exact .inl (by rw [whole]; rfl)
      | container faultless =>
          cases prints
          exact .inl rfl
  | default shape broken given =>
      cases prints
      exact .inl rfl
  | rule shape default broken offence => cases prints
  | wireName shape default rules broken elsewhere => cases prints
  | headerName shape default rules broken header => cases prints

theorem IsRefused.prints {whole : Shape} {e : ConfigError} {printed : String}
    (refused : whole.IsRefused e) (prints : e.printedShape? = some printed) :
    whole.Prints printed := by
  cases refused with
  | listOf refused =>
      exact prints_of_nestedDefect? ((unlessDefect_eq_error_iff _ _ e).mp refused)
        (fun _ part_mem => List.mem_cons_of_mem _ part_mem) prints
  | dictOf refused =>
      exact prints_of_nestedDefect? ((unlessDefect_eq_error_iff _ _ e).mp refused)
        (fun _ part_mem => List.mem_cons_of_mem _ part_mem) prints
  | unionOf refused =>
      exact prints_of_nestedDefect? ((unlessDefect_eq_error_iff _ _ e).mp refused)
        (fun _ part_mem => part_mem) prints
  | declared refused => exact prints_of_build refused prints

end Shape

namespace ParamSet

/-- A refused request that prints a shape prints the one declared for the field, and the kind of the
value. -/
theorem exists_typeMismatch_of_check {set : ParamSet} {provider : Provider} {e : ValidationError}
    {printed : String} (refused : (set.check provider).result = .error e)
    (prints : e.printedShape? = some printed) :
    ∃ name p, (name, p) ∈ set.entries ∧ printed = p.shape.text ∧ ∃ value : Value,
      e = .typeMismatch p.source (p.lookupName name) p.shape value.kindName := by
  obtain ⟨name, p, entry_mem, fails⟩ := exists_outcome_of_check_eq_error refused
  cases fails with
  | missing => cases prints
  | unconverted => cases prints
  | mismatched => exact ⟨name, p, entry_mem, (Option.some.inj prints).symm, _, rfl⟩
  | refused => cases prints

/-- Refused requests with the same message print the same shape. -/
theorem eq_of_message_eq {set otherSet : ParamSet} {provider otherProvider : Provider}
    {e f : ValidationError} (refused : (set.check provider).result = .error e)
    (other_refused : (otherSet.check otherProvider).result = .error f) {shape other : Shape}
    (prints : e.printedShape? = some shape.text) (other_prints : f.printedShape? = some other.text)
    (same : e.message = f.message) : shape = other := by
  obtain ⟨name, p, -, text_eq, value, rfl⟩ := exists_typeMismatch_of_check refused prints
  obtain ⟨otherName, q, -, other_text_eq, otherValue, rfl⟩ :=
    exists_typeMismatch_of_check other_refused other_prints
  rw [Shape.text_injective text_eq, Shape.text_injective other_text_eq]
  exact ValidationError.eq_of_message_typeMismatch same

end ParamSet

/-- Shapes with the same text are the same. So the text that an error prints is that of exactly one
shape: of the shape that is refused or the file type inside it, and for a value of a request of the
shape that is declared for its field. Errors with the same message print the same shape, whatever
else the message is put together from. -/
theorem Shape.texts_unambiguous :
    (∀ shape other : Shape, shape.text = other.text → shape = other) ∧
    (∀ (whole : Shape) (e : ConfigError) (printed : String), whole.IsRefused e →
      e.printedShape? = some printed →
        ∃ part, (part = whole ∨ part = .file ∧ .file ∈ whole.parts) ∧
          ∀ shape : Shape, shape.text = printed ↔ shape = part) ∧
    (∀ (set : ParamSet) (provider : Provider) (e : ValidationError) (printed : String),
      (set.check provider).result = .error e → e.printedShape? = some printed →
        ∃ name p, (name, p) ∈ set.entries ∧ e.source = p.source ∧ e.field = p.lookupName name ∧
          ∀ shape : Shape, shape.text = printed ↔ shape = p.shape) ∧
    (∀ (e f : ConfigError) (shape other : Shape), e.printedShape? = some shape.text →
      f.printedShape? = some other.text → e.message = f.message → shape = other) ∧
    ∀ (set otherSet : ParamSet) (provider otherProvider : Provider) (e f : ValidationError)
      (shape other : Shape), (set.check provider).result = .error e →
      (otherSet.check otherProvider).result = .error f → e.printedShape? = some shape.text →
      f.printedShape? = some other.text → e.message = f.message → shape = other := by
  refine ⟨fun shape other same => text_injective same, ?_, ?_,
    fun e f shape other prints other_prints same =>
      ConfigError.eq_of_message_eq prints other_prints same,
    fun set otherSet provider otherProvider e f shape other refused other_refused prints
      other_prints same =>
      ParamSet.eq_of_message_eq refused other_refused prints other_prints same⟩
  · intro whole e printed refused prints
    rcases refused.prints prints with rfl | ⟨file_mem, rfl⟩
    · exact ⟨whole, .inl rfl, fun shape => text_injective.eq_iff⟩
    · exact ⟨.file, .inr ⟨rfl, file_mem⟩, fun shape => text_injective.eq_iff⟩
  · intro set provider e printed refused prints
    obtain ⟨name, p, entry_mem, rfl, value, rfl⟩ :=
      ParamSet.exists_typeMismatch_of_check refused prints
    exact ⟨name, p, entry_mem, rfl, rfl, fun shape => text_injective.eq_iff⟩

/-- An amount in a union of its own, or a list of them, so that the text of the first member ends
that of the second one. -/
def amounts : Param where
  source := .json
  shape := .union [.union [.scalar .int], .list (.scalar .int)]
  default := none
  rules := []
  optional := false
  wireName := none
  file_of_upload := by simp
  sound := by decide

/-- A name that goes on like a message about a field of another name and shape. -/
def misleadingName : String := "sum' does not match declared type int (got str), 'amounts"

/-- A body with a word under the misleading name. -/
def misleadingBody : Json := .object [(misleadingName, .string "all")]

/-- A list cannot come from a query, a word is no amount, and either error prints the text of one
shape only. No request is refused with the message about the word for another shape, although the
message mentions one. -/
theorem texts_unambiguous_amounts :
    (Declaration.ofSource .query (.list (.scalar .int))).build.result =
        .error (.invalidShape (some .query) "List(int)"
          "must be one of (int, float, str, bool, All) or a union of them") ∧
      (∀ shape : Shape, shape.text = "List(int)" ↔ shape = .list (.scalar .int)) ∧
      ((ParamSet.single misleadingName amounts (by decide)).check
          (RequestInputs.empty.setJson misleadingBody).provider).result =
        .error (.typeMismatch .json misleadingName amounts.shape "str") ∧
      (∀ shape : Shape, shape.text = "((int) | List(int))" ↔ shape = amounts.shape) ∧
      ∀ (set : ParamSet) (provider : Provider) (f : ValidationError) (other : Shape),
        (set.check provider).result = .error f → f.printedShape? = some other.text →
        f.message = "In Json, 'sum' does not match declared type int (got str), 'amounts' " ++
          "does not match declared type ((int) | List(int)) (got str)" →
        other = amounts.shape := by
  have list_refused : (Declaration.ofSource .query (.list (.scalar .int))).build.result =
      .error (.invalidShape (some .query) "List(int)"
        "must be one of (int, float, str, bool, All) or a union of them") := rfl
  have word_refused : ((ParamSet.single misleadingName amounts (by decide)).check
      (RequestInputs.empty.setJson misleadingBody).provider).result =
      .error (.typeMismatch .json misleadingName amounts.shape "str") := rfl
  obtain ⟨-, shapes_known, fields_known, -, messages_known⟩ := Shape.texts_unambiguous
  obtain ⟨part, -, part_only⟩ := shapes_known _ _ _ (.declared list_refused) rfl
  obtain ⟨name, p, -, -, -, p_only⟩ := fields_known _ _ _ _ word_refused rfl
  obtain rfl := (part_only (.list (.scalar .int))).mp rfl
  rw [← (p_only amounts.shape).mp rfl] at p_only
  refine ⟨list_refused, part_only, word_refused, p_only, ?_⟩
  intro set provider f other refused prints message_eq
  exact messages_known _ _ _ _ _ _ _ _ refused word_refused prints rfl (message_eq.trans rfl)

end RequestParams
