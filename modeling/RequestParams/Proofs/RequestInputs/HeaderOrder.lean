import RequestParams.Proofs.RequestInputs.WriteLog
import RequestParams.Proofs.Validation.Composition
import RequestParams.Proofs.Validation.Outcome

/-!
# The order of a map of headers

Headers are replaced by the entries of a map, which a map yields in an order of its own. Entries
whose names differ in case only become one header with the text of the entry that comes last. The
texts that can be found under a name are therefore those of all its entries, each in some order, and
the order is of no account exactly where entries of one name have one text.
-/

namespace RequestParams

theorem Text.lowerAscii_empty : Text.lowerAscii "" = "" := rfl

theorem Text.lowerAscii_eq_empty_iff (s : String) : Text.lowerAscii s = "" ↔ s = "" := by
  rw [lowerAscii, ← String.toList_eq_nil_iff, String.toList_ofList, List.map_eq_nil_iff,
    String.toList_eq_nil_iff]

theorem Texts.lookup_ofPairs_eq_lookup_reverse (pairs : List (String × String)) (key : String) :
    (Texts.ofPairs pairs).lookup key = pairs.reverse.lookup key := by
  have folded := lookup_foldl_put Texts.set Texts.lookup_set pairs [] key
  rwa [List.lookup_nil, Option.or_none] at folded

namespace RequestInputs

variable (r : RequestInputs) {pairs : List (String × String)}

/-- The entry of a header under the name that it is kept under. -/
def keptHeader (entry : String × String) : String × String := (Text.lowerAscii entry.1, entry.2)

/-- Entries whose names become one have one text. -/
def MergeAgrees (pairs : List (String × String)) : Prop :=
  ∀ first ∈ pairs, ∀ second ∈ pairs,
    Text.lowerAscii first.1 = Text.lowerAscii second.1 → first.2 = second.2

theorem lookup_replaceHeaders (order : List (String × String)) (key : String) :
    (r.replaceHeaders order).lookup .header key =
      ((order.map keptHeader).reverse.lookup (Text.lowerAscii key)).map Value.str :=
  congrArg (Option.map Value.str) (Texts.lookup_ofPairs_eq_lookup_reverse _ _)

theorem exists_entry_of_lookup_replaceHeaders {order : List (String × String)} {key : String}
    {value : Value} (found : (r.replaceHeaders order).lookup .header key = some value) :
    ∃ entry ∈ order, Text.lowerAscii entry.1 = Text.lowerAscii key ∧ value = .str entry.2 := by
  rw [lookup_replaceHeaders] at found
  obtain ⟨text, text_found, rfl⟩ := Option.map_eq_some_iff.mp found
  have kept_mem := List.mem_reverse.mp (mem_of_lookup text_found)
  obtain ⟨entry, entry_mem, kept_eq⟩ := List.mem_map.mp kept_mem
  obtain ⟨same_name, rfl⟩ := Prod.mk.inj kept_eq
  exact ⟨entry, entry_mem, same_name, rfl⟩

theorem lookup_replaceHeaders_concat (before : List (String × String)) (entry : String × String)
    {key : String} (same_name : Text.lowerAscii entry.1 = Text.lowerAscii key) :
    (r.replaceHeaders (before ++ [entry])).lookup .header key = some (.str entry.2) := by
  rw [lookup_replaceHeaders, List.map_append, List.reverse_append, ← same_name]
  simp [keptHeader]

theorem lookup_replaceHeaders_eq_none_iff (order : List (String × String)) (key : String) :
    (r.replaceHeaders order).lookup .header key = none ↔
      ∀ entry ∈ order, Text.lowerAscii entry.1 ≠ Text.lowerAscii key := by
  rw [lookup_replaceHeaders, Option.map_eq_none_iff, List.lookup_eq_none_iff]
  simp only [keptHeader, List.mem_reverse, List.forall_mem_map, bne_iff_ne, ne_comm]

/-- Every entry comes last in some order. -/
theorem exists_order_ending_in {entry : String × String} (entry_mem : entry ∈ pairs) :
    ∃ before, (before ++ [entry]).Perm pairs := by
  obtain ⟨before, after, rfl⟩ := List.append_of_mem entry_mem
  refine ⟨before ++ after, ?_⟩
  rw [List.append_assoc]
  exact List.Perm.append_left before (List.perm_append_singleton entry after)

/-- What is found under a name in one order or another is the text of one of its entries, and each
of them is found in some order. -/
theorem exists_order_lookup_iff (key : String) (value : Value) :
    (∃ order, order.Perm pairs ∧ (r.replaceHeaders order).lookup .header key = some value) ↔
      ∃ entry ∈ pairs, Text.lowerAscii entry.1 = Text.lowerAscii key ∧ value = .str entry.2 := by
  constructor
  · rintro ⟨order, perm, found⟩
    obtain ⟨entry, entry_mem, named⟩ := r.exists_entry_of_lookup_replaceHeaders found
    exact ⟨entry, perm.mem_iff.mp entry_mem, named⟩
  · rintro ⟨entry, entry_mem, same_name, rfl⟩
    obtain ⟨before, perm⟩ := exists_order_ending_in entry_mem
    exact ⟨_, perm, r.lookup_replaceHeaders_concat before entry same_name⟩

theorem lookup_replaceHeaders_of_perm (agrees : MergeAgrees pairs)
    {left right : List (String × String)} (left_perm : left.Perm pairs)
    (right_perm : right.Perm pairs) (key : String) :
    (r.replaceHeaders left).lookup .header key = (r.replaceHeaders right).lookup .header key := by
  cases found : (r.replaceHeaders right).lookup .header key with
  | none =>
      rw [lookup_replaceHeaders_eq_none_iff] at found ⊢
      exact fun entry entry_mem =>
        found entry (right_perm.mem_iff.mpr (left_perm.mem_iff.mp entry_mem))
  | some value =>
      obtain ⟨second, second_mem, second_name, rfl⟩ := r.exists_entry_of_lookup_replaceHeaders found
      cases also_found : (r.replaceHeaders left).lookup .header key with
      | none =>
          have second_left := left_perm.mem_iff.mpr (right_perm.mem_iff.mp second_mem)
          exact absurd second_name
            ((r.lookup_replaceHeaders_eq_none_iff left key).mp also_found second second_left)
      | some other =>
          obtain ⟨first, first_mem, first_name, rfl⟩ :=
            r.exists_entry_of_lookup_replaceHeaders also_found
          have same_text := agrees first (left_perm.mem_iff.mp first_mem) second
            (right_perm.mem_iff.mp second_mem) (first_name.trans second_name.symm)
          rw [same_text]

/-- Stores that agree on headers after one replacement agree as providers. -/
theorem provider_replaceHeaders_eq {left right : List (String × String)}
    (same : ∀ key, (r.replaceHeaders left).lookup .header key =
      (r.replaceHeaders right).lookup .header key) :
    (r.replaceHeaders left).provider = (r.replaceHeaders right).provider := by
  have same_lookup : (r.replaceHeaders left).lookup = (r.replaceHeaders right).lookup := by
    funext source key
    cases source with
    | header => exact same key
    | route | query | form | json | file => rfl
  exact congrArg (Provider.mk · r.files) same_lookup

/-- A text of a header. -/
def headerText : Param where
  source := .header
  shape := .scalar .str
  default := none
  rules := []
  optional := true
  wireName := none
  file_of_upload := by simp
  sound := by decide

theorem check_headerText {provider : Provider} {name text : String} (nonempty : name ≠ "")
    (found : provider.lookup .header name = some (.str text)) :
    ((ParamSet.single name headerText nonempty).check provider).result =
      .ok ⟨[(name, some (.str text))]⟩ := by
  have given : headerText.IsGiven name provider (.str text) := ⟨found, by simp⟩
  have kept : headerText.Coerces (.str text) (.str text) :=
    .unchanged fun _ _ target converts =>
      converts.target_ne_str (Shape.scalar.inj converts.first_choice).symm
  have resolved : (headerText.resolve name provider).result = .ok (some (.str text)) :=
    headerText.resolve_of_outcome name provider
      (.accepted (.given given kept) rfl fun rule rule_mem => nomatch rule_mem)
  rw [ParamSet.check_single, ParamSet.singleResult, namedResult, resolved]
  rfl

/-- A map of headers gives the same lookups in every order, and every set of parameters the same
check, exactly if entries whose names become one have one text. -/
theorem replaceHeaders_order_irrelevant_iff (pairs : List (String × String))
    (distinct : (pairs.map Prod.fst).Nodup) :
    ((∀ left right, left.Perm pairs → right.Perm pairs → ∀ key,
        (r.replaceHeaders left).lookup .header key =
          (r.replaceHeaders right).lookup .header key) ↔ MergeAgrees pairs) ∧
    ((∀ left right, left.Perm pairs → right.Perm pairs → ∀ set : ParamSet,
        set.check (r.replaceHeaders left).provider =
          set.check (r.replaceHeaders right).provider) ↔ MergeAgrees pairs) := by
  refine ⟨⟨fun same first first_mem second second_mem same_name => ?_,
    fun agrees left right => r.lookup_replaceHeaders_of_perm agrees⟩,
    ⟨fun same first first_mem second second_mem same_name => ?_,
    fun agrees left right left_perm right_perm set => ?_⟩⟩
  · obtain ⟨left, left_perm, left_found⟩ :=
      (r.exists_order_lookup_iff first.1 _).mpr ⟨first, first_mem, rfl, rfl⟩
    obtain ⟨right, right_perm, right_found⟩ :=
      (r.exists_order_lookup_iff first.1 _).mpr ⟨second, second_mem, same_name.symm, rfl⟩
    have same_value := same left right left_perm right_perm first.1
    rw [left_found, right_found] at same_value
    exact Value.str.inj (Option.some.inj same_value)
  · by_cases nameless : first.1 = ""
    · -- No parameter has the empty name to ask for it, but nothing merges with it either.
      have second_nameless : second.1 = "" := by
        rwa [nameless, Text.lowerAscii_empty, eq_comm, Text.lowerAscii_eq_empty_iff] at same_name
      have first_found := lookup_of_mem distinct first_mem
      have second_found := lookup_of_mem distinct second_mem
      rw [nameless] at first_found
      rw [second_nameless, first_found] at second_found
      exact Option.some.inj second_found
    · obtain ⟨left, left_perm, left_found⟩ :=
        (r.exists_order_lookup_iff first.1 _).mpr ⟨first, first_mem, rfl, rfl⟩
      obtain ⟨right, right_perm, right_found⟩ :=
        (r.exists_order_lookup_iff first.1 _).mpr ⟨second, second_mem, same_name.symm, rfl⟩
      have same_check := same left right left_perm right_perm
        (ParamSet.single first.1 headerText nameless)
      have same_result := congrArg Logged.result same_check
      rw [check_headerText nameless left_found,
        check_headerText nameless right_found] at same_result
      simpa using same_result
  · have same_lookup := r.lookup_replaceHeaders_of_perm agrees left_perm right_perm
    rw [r.provider_replaceHeaders_eq same_lookup]

/-- A map with one header in two spellings of its name. -/
def respelledHeaders : List (String × String) := [("X-Id", "7"), ("Host", "a"), ("x-id", "7")]

/-- Where both spellings have one text, the order of the map is of no account. -/
theorem replaceHeaders_order_irrelevant_iff_respelled :
    (respelledHeaders.map Prod.fst).Nodup ∧ MergeAgrees respelledHeaders ∧
      (∀ key, (empty.replaceHeaders respelledHeaders.reverse).lookup .header key =
        (empty.replaceHeaders respelledHeaders).lookup .header key) ∧
      ∀ set : ParamSet, set.check (empty.replaceHeaders respelledHeaders.reverse).provider =
        set.check (empty.replaceHeaders respelledHeaders).provider := by
  have distinct : (respelledHeaders.map Prod.fst).Nodup := by decide
  have agrees : MergeAgrees respelledHeaders := by unfold MergeAgrees; decide
  obtain ⟨lookups, checks⟩ :=
    replaceHeaders_order_irrelevant_iff empty respelledHeaders distinct
  have reversed : respelledHeaders.reverse.Perm respelledHeaders := List.reverse_perm _
  exact ⟨distinct, agrees, lookups.mpr agrees _ _ reversed (.refl _),
    checks.mpr agrees _ _ reversed (.refl _)⟩

/-- Where two spellings have different texts, the order of the map decides which of them stands. -/
theorem replaceHeaders_order_matters :
    ¬∀ (r : RequestInputs) (pairs : List (String × String)), (pairs.map Prod.fst).Nodup →
      ∀ left right, left.Perm pairs → right.Perm pairs → ∀ key,
        (r.replaceHeaders left).lookup .header key =
          (r.replaceHeaders right).lookup .header key := by
  intro order_free
  have same := order_free empty [("X-Id", "1"), ("x-id", "2")] (by decide)
    [("X-Id", "1"), ("x-id", "2")] [("x-id", "2"), ("X-Id", "1")] (.refl _) (.swap _ _ _) "X-Id"
  have left_found : (empty.replaceHeaders [("X-Id", "1"), ("x-id", "2")]).lookup .header "X-Id" =
      some (.str "2") := rfl
  have right_found : (empty.replaceHeaders [("x-id", "2"), ("X-Id", "1")]).lookup .header "X-Id" =
      some (.str "1") := rfl
  rw [left_found, right_found] at same
  exact absurd (Value.str.inj (Option.some.inj same)) (by decide)

end RequestInputs

end RequestParams
