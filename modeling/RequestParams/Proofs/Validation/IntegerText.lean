import RequestParams.Proofs.Text.Integer
import RequestParams.Proofs.Validation.TextSources

/-!
# Texts for integers

Where the first choice of a shape is an integer, a text that is supplied is read as the integer that
it writes, if that fits in 64 signed bits. Every other text is refused before any rule is tested.
-/

namespace RequestParams

open Text (WritesInteger)

theorem Scalar.read?_int_eq_some_iff (text : String) (n : Int64) :
    Scalar.int.read? text = some (.int n) ↔ WritesInteger text.toList n.toInt := by
  rw [read?, Option.map_eq_some_iff, ← Text.int64?_eq_some_iff]
  simp only [Value.int.injEq, exists_eq_right]

theorem Scalar.read?_int_eq_none {text : String}
    (unwritten : ∀ n : Int64, ¬WritesInteger text.toList n.toInt) :
    Scalar.int.read? text = none := by
  rw [read?, Option.map_eq_none_iff, Option.eq_none_iff_forall_ne_some]
  exact fun n read => unwritten n ((Text.int64?_eq_some_iff text n).mp read)

/-- The integers of the type are those that fit in 64 signed bits. -/
theorem exists_toInt_eq_iff (z : Int) :
    (∃ n : Int64, n.toInt = z) ↔ -9223372036854775808 ≤ z ∧ z ≤ 9223372036854775807 := by
  constructor
  · rintro ⟨n, rfl⟩
    exact ⟨n.minValue_le_toInt, n.toInt_le⟩
  · rintro ⟨above, below⟩
    exact ⟨.ofInt z, Int64.toInt_ofInt_of_le above (Int.lt_add_one_of_le below)⟩

namespace Param

theorem coerce_int_eq_ok_iff {p : Param} (converts : p.ConvertsTo .int) (text field : String)
    (n : Int64) :
    (coerce (.str text) p.shape p.source field).result = .ok (.int n) ↔
      WritesInteger text.toList n.toInt := by
  rw [p.coerce_of_converts converts, ← Scalar.read?_int_eq_some_iff]
  cases Scalar.int.read? text <;> simp

/-- A text given to a parameter for integers is converted to an integer exactly if it is one or more
digits after one sign or none, which write that integer, and the integer fits in 64 signed bits. A
text that is supplied comes before the rules as its integer, and any other text is refused as one
that cannot be converted, without a test by any rule. -/
theorem integer_texts_exact (p : Param)
    (source_mem : p.source ∈ [Source.route, .query, .form, .header])
    (first_choice : p.shape.firstChoice = .scalar .int) (text : String) :
    (∀ (field : String) (z : Int),
      (∃ n : Int64, n.toInt = z ∧
        (coerce (.str text) p.shape p.source field).result = .ok (.int n)) ↔
      WritesInteger text.toList z ∧ -9223372036854775808 ≤ z ∧ z ≤ 9223372036854775807) ∧
    ∀ (name : String) (r : RequestInputs),
      r.lookup p.source (p.lookupName name) = some (.str text) →
        (∀ n : Int64, WritesInteger text.toList n.toInt →
          p.RulesDecideOn name r.provider (.int n)) ∧
        ((∀ z, WritesInteger text.toList z →
            ¬(-9223372036854775808 ≤ z ∧ z ≤ 9223372036854775807)) →
          (p.resolve name r.provider).result =
            .error (.conversion p.source (p.lookupName name) .int text) ∧
          (p.resolve name r.provider).tests = []) := by
  have converts : p.ConvertsTo .int := ⟨source_mem, first_choice, by decide⟩
  have textual := (isTextBearing_iff p.source).mpr source_mem
  refine ⟨fun field z => ?_, fun name r supplied =>
    ⟨fun n written => ?_, fun none_in_range => ?_⟩⟩
  · simp only [coerce_int_eq_ok_iff converts, ← exists_toInt_eq_iff]
    constructor
    · rintro ⟨n, rfl, written⟩
      exact ⟨written, n, rfl⟩
    · rintro ⟨written, n, rfl⟩
      exact ⟨n, rfl, written⟩
  · have read := (Scalar.read?_int_eq_some_iff text n).mpr written
    exact rulesDecideOn_of_coerces textual supplied (.converted converts read)
  · have unread : Scalar.int.read? text = none := by
      refine Scalar.read?_int_eq_none fun n written => ?_
      exact none_in_range n.toInt written ((exists_toInt_eq_iff n.toInt).mp ⟨n, rfl⟩)
    exact ⟨resolve_of_unread textual supplied converts unread,
      tests_resolve_of_unread textual supplied converts unread⟩

end Param

/-- The least integer of 64 signed bits, with zeros before it. -/
def leastKey : String := "-0009223372036854775808"

/-- The integer below the least one. -/
def keyBelowLeast : String := "-9223372036854775809"

/-- The least integer is read from the path exactly, and the one below it is refused. -/
theorem integer_texts_exact_limits :
    looseKey.source ∈ [Source.route, .query, .form, .header] ∧
      looseKey.shape.firstChoice = .scalar .int ∧
      looseKey.RulesDecideOn "key" (RequestInputs.empty.setRoute "key" leastKey).provider
        (.int Int64.minValue) ∧
      WritesInteger keyBelowLeast.toList (-9223372036854775809) ∧
      (looseKey.resolve "key"
          (RequestInputs.empty.setRoute "key" keyBelowLeast).provider).result =
        .error (.conversion .route "key" .int keyBelowLeast) := by
  have source_mem : looseKey.source ∈ [Source.route, .query, .form, .header] := by decide
  have least_written : WritesInteger leastKey.toList Int64.minValue.toInt :=
    .minus ⟨by decide, List.all_eq_true.mp rfl, rfl⟩
  have below_written : WritesInteger keyBelowLeast.toList (-9223372036854775809) :=
    .minus ⟨by decide, List.all_eq_true.mp rfl, rfl⟩
  obtain ⟨-, least⟩ := looseKey.integer_texts_exact source_mem rfl leastKey
  obtain ⟨-, below⟩ := looseKey.integer_texts_exact source_mem rfl keyBelowLeast
  have read := (least "key" (RequestInputs.empty.setRoute "key" leastKey) rfl).1 _ least_written
  refine ⟨source_mem, rfl, read, below_written, ?_⟩
  refine ((below "key" (RequestInputs.empty.setRoute "key" keyBelowLeast) rfl).2 ?_).1
  intro z written in_range
  rw [written.unique below_written] at in_range
  exact absurd in_range.1 (by decide)

end RequestParams
