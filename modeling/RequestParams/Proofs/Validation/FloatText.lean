import RequestParams.Proofs.Binary64.Reading
import RequestParams.Proofs.Validation.Finiteness
import RequestParams.Proofs.Validation.TextSources

/-!
# Texts for floats

Where the first choice of a shape is a float, a text that is supplied is read as the double that the
decimal it writes is rounded to, if that is finite. Every other text is refused before any rule is
tested, the names of numbers that are not finite among them.
-/

namespace RequestParams

open Binary64 (RoundsToFinite)
open Text (WritesDecimal WritesNonfinite DecimalParts)

theorem Scalar.read?_float_eq_some_iff (text : String) (value : Value) :
    Scalar.float.read? text = some value ↔
      ∃ d, WritesDecimal text.toList d ∧ RoundsToFinite d.asRead.value ∧
        .float d.asRead.rounded = value := by
  simp only [read?, Option.map_eq_some_iff, Binary64.ofText?_eq_some_iff]
  constructor
  · rintro ⟨_, ⟨d, writes, finite, rfl⟩, rfl⟩
    exact ⟨d, writes, finite, rfl⟩
  · rintro ⟨d, writes, finite, rfl⟩
    exact ⟨_, ⟨d, writes, finite, rfl⟩, rfl⟩

theorem Scalar.read?_float_eq_none_iff (text : String) :
    Scalar.float.read? text = none ↔
      ∀ d, WritesDecimal text.toList d → ¬RoundsToFinite d.asRead.value := by
  rw [read?, Option.map_eq_none_iff, Binary64.ofText?_eq_none_iff]

namespace Param

theorem coerce_float_eq_ok_iff {p : Param} (converts : p.ConvertsTo .float) (text field : String)
    (value : Value) :
    (coerce (.str text) p.shape p.source field).result = .ok value ↔
      ∃ d, WritesDecimal text.toList d ∧ RoundsToFinite d.asRead.value ∧
        .float d.asRead.rounded = value := by
  rw [p.coerce_of_converts converts, ← Scalar.read?_float_eq_some_iff]
  cases Scalar.float.read? text <;> simp

/-- A text given to a parameter for floats is converted exactly if it is a decimal that, with the
leading digits of its exponent, is rounded to a finite double, and then to that double, which is
closest to the number. These digits decide like the exponent itself for all decimals within reach. A
text that is supplied comes before the rules as its double. Any other text, such as the name of a
number that is not finite, is refused as one that cannot be converted, without a test by any
rule. -/
theorem float_texts_exact (p : Param)
    (source_mem : p.source ∈ [Source.route, .query, .form, .header])
    (first_choice : p.shape.firstChoice = .scalar .float) (text : String) :
    (∀ (field : String) (value : Value),
      (coerce (.str text) p.shape p.source field).result = .ok value ↔
        ∃ d, WritesDecimal text.toList d ∧ RoundsToFinite d.asRead.value ∧
          .float d.asRead.rounded = value) ∧
    (∀ d, WritesDecimal text.toList d →
      (RoundsToFinite d.asRead.value → d.asRead.rounded.IsNearest d.asRead.value) ∧
      (d.exponent.natAbs < 655360 → d.asRead = d) ∧
      (d.whole.length ≤ 65000 ∧ d.fraction.length ≤ 65000 →
        (RoundsToFinite d.asRead.value ↔ RoundsToFinite d.value))) ∧
    ∀ (name : String) (r : RequestInputs),
      r.lookup p.source (p.lookupName name) = some (.str text) →
        (∀ d, WritesDecimal text.toList d → RoundsToFinite d.asRead.value →
          p.RulesDecideOn name r.provider (.float d.asRead.rounded)) ∧
        (WritesNonfinite text.toList ∨
            (∀ d, WritesDecimal text.toList d → ¬RoundsToFinite d.asRead.value) →
          (p.resolve name r.provider).result =
            .error (.conversion p.source (p.lookupName name) .float text) ∧
          (p.resolve name r.provider).tests = []) := by
  have converts : p.ConvertsTo .float := ⟨source_mem, first_choice, by decide⟩
  have textual := (isTextBearing_iff p.source).mpr source_mem
  refine ⟨coerce_float_eq_ok_iff converts text, fun d writes => ⟨?_, ?_, ?_⟩,
    fun name r supplied => ⟨fun d writes finite => ?_, fun refused => ?_⟩⟩
  · exact Binary64.isNearest_rounded
  · exact Binary64.asRead_of_lt
  · exact fun short => Binary64.roundsToFinite_asRead_iff writes (.inr short)
  · have read := (Scalar.read?_float_eq_some_iff text _).mpr ⟨d, writes, finite, rfl⟩
    exact rulesDecideOn_of_coerces textual supplied (.converted converts read)
  · have unread : Scalar.float.read? text = none := by
      rw [Scalar.read?_float_eq_none_iff]
      rcases refused with nonfinite | overflows
      · exact fun d writes => absurd writes (Binary64.not_writesDecimal_of_nonfinite nonfinite d)
      · exact overflows
    exact ⟨resolve_of_unread textual supplied converts unread,
      tests_resolve_of_unread textual supplied converts unread⟩

end Param

/-! ## Decimals at the bound of overflow -/

/-- A whole number without a sign and its power of ten. -/
def wholeParts (digits : List Char) (exponent : Int) : DecimalParts := ⟨false, digits, [], exponent⟩

theorem writesDecimal_wholeParts (digits : List Char) {power : List Char} {exponent : Int}
    (nonempty : digits ≠ []) (digit : ∀ c ∈ digits, Text.isDigit c = true)
    (writes_exponent : Text.WritesExponent power exponent) :
    WritesDecimal (digits ++ power) (wholeParts digits exponent) :=
  .parts .absent (.whole nonempty digit) writes_exponent

/-- The greatest number of seventeen digits that is rounded to the largest double at its scale. -/
def belowDigits : List Char := "17976931348623158".toList

/-- The next number. -/
def beyondDigits : List Char := "17976931348623159".toList

def belowBound : String := "17976931348623158e292"

def beyondBound : String := "17976931348623159e292"

theorem rounded_belowBound :
    (wholeParts belowDigits 292).rounded = ⟨0x7fefffffffffffff⟩ := by
  decide +kernel

theorem isFinite_beyondBound :
    (wholeParts beyondDigits 292).rounded.isFinite = false := by
  decide +kernel

/-- The largest double is read from the one decimal, and the next is refused. -/
theorem float_texts_exact_bound :
    ratio.source ∈ [Source.route, .query, .form, .header] ∧
      ratio.shape.firstChoice = .scalar .float ∧
      ratio.RulesDecideOn "ratio" (RequestInputs.empty.setQuery "ratio" belowBound).provider
        (.float ⟨0x7fefffffffffffff⟩) ∧
      (ratio.resolve "ratio"
          (RequestInputs.empty.setQuery "ratio" beyondBound).provider).result =
        .error (.conversion .query "ratio" .float beyondBound) := by
  have source_mem : ratio.source ∈ [Source.route, .query, .form, .header] := by decide
  have power : Text.WritesExponent "e292".toList 292 :=
    .marked (.inl rfl) (.plain ⟨by decide, List.all_eq_true.mp rfl, rfl⟩)
  have below_written : WritesDecimal belowBound.toList (wholeParts belowDigits 292) :=
    writesDecimal_wholeParts belowDigits (by decide) (List.all_eq_true.mp rfl) power
  have beyond_written : WritesDecimal beyondBound.toList (wholeParts beyondDigits 292) :=
    writesDecimal_wholeParts beyondDigits (by decide) (List.all_eq_true.mp rfl) power
  obtain ⟨-, -, below⟩ := ratio.float_texts_exact source_mem rfl belowBound
  obtain ⟨-, -, beyond⟩ := ratio.float_texts_exact source_mem rfl beyondBound
  obtain ⟨below, -⟩ := below "ratio" (RequestInputs.empty.setQuery "ratio" belowBound) rfl
  obtain ⟨-, beyond⟩ := beyond "ratio" (RequestInputs.empty.setQuery "ratio" beyondBound) rfl
  have below_read : (wholeParts belowDigits 292).asRead = wholeParts belowDigits 292 :=
    Binary64.asRead_of_lt (by decide)
  have beyond_read : (wholeParts beyondDigits 292).asRead = wholeParts beyondDigits 292 :=
    Binary64.asRead_of_lt (by decide)
  refine ⟨source_mem, rfl, ?_, (beyond (.inr ?_)).1⟩
  · have decided := below _ below_written
    rw [below_read, ← Binary64.isFinite_rounded_iff, rounded_belowBound] at decided
    exact decided rfl
  · intro d written finite
    rw [Binary64.writesDecimal_unique written beyond_written, beyond_read,
      ← Binary64.isFinite_rounded_iff, isFinite_beyondBound] at finite
    cases finite

/-! ## Decimals out of reach -/

/-- A one, so many zeros and an exponent of which the last digit is not read. -/
def farText (zeros : Nat) : String :=
  String.ofList ('1' :: List.replicate zeros '0' ++ "e-655360".toList)

def farParts (zeros : Nat) : DecimalParts := wholeParts ('1' :: List.replicate zeros '0') (-655360)

theorem writesDecimal_farText (zeros : Nat) :
    WritesDecimal (farText zeros).toList (farParts zeros) := by
  have digit : ∀ c ∈ '1' :: List.replicate zeros '0', Text.isDigit c = true := by
    refine List.forall_mem_cons.mpr ⟨rfl, fun c c_mem => ?_⟩
    rw [List.eq_of_mem_replicate c_mem]
    rfl
  rw [farText, String.toList_ofList]
  exact writesDecimal_wholeParts _ (List.cons_ne_nil _ _) digit
    (.marked (.inl rfl) (.minus ⟨by decide, List.all_eq_true.mp rfl, rfl⟩))

theorem significand_farParts (zeros : Nat) : (farParts zeros).significand = 10 ^ zeros := by
  have digits_eq : (farParts zeros).whole ++ (farParts zeros).fraction =
      '1' :: List.replicate zeros '0' := List.append_nil _
  rw [DecimalParts.significand, digits_eq]
  induction zeros with
  | zero => rfl
  | succ zeros induction =>
      rw [List.replicate_succ', ← List.cons_append, Binary64.digitsValue_append,
        induction (List.append_nil _), pow_succ', show Text.digitValue '0' = 0 from rfl,
        Nat.add_zero]

theorem scale_farParts_asRead (zeros : Nat) : (farParts zeros).asRead.scale = -65536 := by
  have leading_eq : Text.leadingDigits 655360 = 65536 := by
    rw [Binary64.leadingDigits_of_le (by decide), Binary64.leadingDigits_of_lt (by decide)]
  have exponent_eq : (farParts zeros).asRead.exponent = -(Text.leadingDigits 655360) := rfl
  rw [DecimalParts.scale, exponent_eq, leading_eq]
  rfl

theorem not_roundsToFinite_farParts_asRead {zeros : Nat} (many : 66048 ≤ zeros) :
    ¬RoundsToFinite (farParts zeros).asRead.value := by
  have ten_ne : (10 : ℚ) ≠ 0 := by norm_num
  have significand_eq : (farParts zeros).asRead.significand = 10 ^ zeros :=
    significand_farParts zeros
  have far : 512 ≤ zeros - 65536 := by omega
  refine Binary64.not_roundsToFinite_of_le far (le_of_eq ?_)
  rw [Binary64.abs_value, significand_eq, scale_farParts_asRead, Nat.cast_pow, Nat.cast_ofNat,
    ← zpow_natCast, ← zpow_natCast, ← zpow_add₀ ten_ne]
  congr 1
  omega

theorem roundsToFinite_farParts {zeros : Nat} (few : zeros < 655360) :
    RoundsToFinite (farParts zeros).value := by
  apply Binary64.roundsToFinite_of_exponent_le
  · exact Binary64.digit_of_writesDecimal (writesDecimal_farText zeros)
  · have length_eq : (farParts zeros).whole.length = zeros + 1 := by
      rw [farParts, wholeParts, List.length_cons, List.length_replicate]
    have exponent_eq : (farParts zeros).exponent = -655360 := rfl
    omega

theorem resolve_farText {zeros : Nat} (many : 66048 ≤ zeros) :
    (ratio.resolve "ratio"
        (RequestInputs.empty.setQuery "ratio" (farText zeros)).provider).result =
      .error (.conversion .query "ratio" .float (farText zeros)) := by
  have converts : ratio.ConvertsTo .float := ⟨by decide, rfl, by decide⟩
  have unread : Scalar.float.read? (farText zeros) = none := by
    rw [Scalar.read?_float_eq_none_iff]
    intro d written
    rw [Binary64.writesDecimal_unique written (writesDecimal_farText zeros)]
    exact not_roundsToFinite_farParts_asRead many
  exact Param.resolve_of_unread rfl rfl converts unread

/-- A decimal far below one is refused, for the last digit of its exponent is not read. -/
theorem float_texts_exceed_exponent :
    WritesDecimal (farText 67000).toList (farParts 67000) ∧ RoundsToFinite (farParts 67000).value ∧
      (ratio.resolve "ratio"
          (RequestInputs.empty.setQuery "ratio" (farText 67000)).provider).result =
        .error (.conversion .query "ratio" .float (farText 67000)) :=
  ⟨writesDecimal_farText 67000, roundsToFinite_farParts (by decide), resolve_farText (by decide)⟩

end RequestParams
