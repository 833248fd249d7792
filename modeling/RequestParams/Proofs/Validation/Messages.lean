import RequestParams.Proofs.Shape.Origins
import RequestParams.Proofs.Text.ControlCharacters
import RequestParams.Proofs.Validation.Verdict

/-!
# Control characters in messages

A message is put together from what the application declares, from names of sources, kinds and
types, and from the text of a client where a conversion fails. The last is quoted. So a message has
a control character only if the application declares one, whatever a request holds.
-/

namespace RequestParams

open Text (IsControlCharacter ControlFree controlFree_append_iff)

/-! ## Names of sources, kinds and types -/

theorem Source.controlFree_name (source : Source) : ControlFree source.name := by
  cases source <;> decide

theorem Scalar.controlFree_name (kind : Scalar) : ControlFree kind.name := by
  cases kind <;> decide

theorem Value.controlFree_kindName (value : Value) : ControlFree value.kindName := by
  cases value <;> (rw [kindName]; decide)

namespace Shape

theorem texts_eq_map (members : List Shape) : texts members = members.map text := by
  induction members with
  | nil => rfl
  | cons member members induction => rw [texts, induction, List.map_cons]

theorem controlFree_text (shape : Shape) : ControlFree shape.text := by
  induction shape with
  | scalar kind => exact kind.controlFree_name
  | list item induction =>
      rw [text, controlFree_append_iff, controlFree_append_iff]
      exact ⟨⟨by decide, induction⟩, by decide⟩
  | dict item induction =>
      rw [text, controlFree_append_iff, controlFree_append_iff]
      exact ⟨⟨by decide, induction⟩, by decide⟩
  | file =>
      rw [text]
      decide
  | any =>
      rw [text]
      decide
  | union members induction =>
      rw [text, controlFree_append_iff, controlFree_append_iff, texts_eq_map, joinBars]
      refine ⟨⟨by decide, ?_⟩, by decide⟩
      exact Text.controlFree_intercalate (by decide) (List.forall_mem_map.mpr induction)

end Shape

/-! ## Messages -/

namespace ValidationError

variable (source : Source) {name : String} (name_free : ControlFree name)
include name_free

theorem controlFree_location : ControlFree (location source name) := by
  simp only [location, controlFree_append_iff]
  exact ⟨⟨⟨⟨by decide, source.controlFree_name⟩, by decide⟩, name_free⟩, by decide⟩

theorem controlFree_missing : ControlFree (missing source name).message := by
  simp only [message, controlFree_append_iff]
  exact ⟨⟨⟨⟨by decide, source.controlFree_name⟩, by decide⟩, name_free⟩, by decide⟩

/-- The message about a text that is not converted has no control character, whatever the text. -/
theorem controlFree_conversion (target : Scalar) (raw : String) :
    ControlFree (conversion source name target raw).message := by
  have location_free := controlFree_location source name_free
  simp only [message, controlFree_append_iff]
  exact ⟨⟨⟨⟨location_free, by decide⟩, Text.controlFree_quote raw⟩, by decide⟩,
    target.controlFree_name⟩

theorem controlFree_typeMismatch (expected : Shape) (value : Value) :
    ControlFree (typeMismatch source name expected value.kindName).message := by
  have location_free := controlFree_location source name_free
  simp only [message, controlFree_append_iff]
  exact ⟨⟨⟨⟨⟨location_free, by decide⟩, expected.controlFree_text⟩, by decide⟩,
    value.controlFree_kindName⟩, by decide⟩

theorem controlFree_ruleViolation (rule : String) {violation : String}
    (violation_free : ControlFree violation) :
    ControlFree (ruleViolation source name rule violation).message := by
  rw [message, controlFree_append_iff]
  exact ⟨controlFree_location source name_free, violation_free⟩

end ValidationError

/-! ## Sets whose declarations have no control characters -/

namespace ParamSet

/-- No text that a message repeats from the declarations has a control character. -/
structure DeclaresControlFree (set : ParamSet) : Prop where
  /-- Names of arguments. -/
  names : ∀ name ∈ set.names, ControlFree name
  /-- Names of headers, where they differ from those of arguments. -/
  wireNames : ∀ entry ∈ set.entries, ∀ wire, entry.2.wireName = some wire → ControlFree wire
  /-- What the rules say of values that they refuse. -/
  violations : ∀ entry ∈ set.entries, ∀ rule ∈ entry.2.rules, ControlFree rule.violation

theorem DeclaresControlFree.lookupName {set : ParamSet} (declares : set.DeclaresControlFree)
    {name : String} {p : Param} (entry_mem : (name, p) ∈ set.entries) :
    ControlFree (p.lookupName name) := by
  unfold Param.lookupName
  split
  · rename_i wire _ wire_eq
    exact declares.wireNames (name, p) entry_mem wire wire_eq
  · exact declares.names name (List.mem_map_of_mem entry_mem)

/-- Where the application declares no control character, no message has one, whatever texts,
documents and uploads the provider gives. -/
theorem messages_control_free (set : ParamSet) (declares : set.DeclaresControlFree)
    (provider : Provider) (e : ValidationError) (refused : (set.check provider).result = .error e) :
    ControlFree e.message := by
  obtain ⟨name, p, entry_mem, fails⟩ := exists_outcome_of_check_eq_error refused
  have name_free := declares.lookupName entry_mem
  cases fails with
  | missing => exact ValidationError.controlFree_missing p.source name_free
  | unconverted => exact ValidationError.controlFree_conversion p.source name_free _ _
  | mismatched => exact ValidationError.controlFree_typeMismatch p.source name_free p.shape _
  | @refused value rule before after _ _ rules_eq _ _ =>
      have rule_mem : rule ∈ p.rules := rules_eq ▸ List.mem_append_right before List.mem_cons_self
      have violation_free := declares.violations (name, p) entry_mem rule rule_mem
      exact ValidationError.controlFree_ruleViolation p.source name_free rule.name violation_free

end ParamSet

/-- A page number that would end a header and clear the screen, if it were sent or shown as it
is. -/
def breakingPage : String := "1\r\nSet-Cookie: a=b\x1b[2J"

/-- A search that is refused for such a page shows it without a control character. -/
theorem messages_control_free_search :
    search.DeclaresControlFree ∧ ¬ControlFree breakingPage ∧
      (search.check (RequestInputs.empty.setQuery "page" breakingPage).provider).result =
        .error (.conversion .query "page" .int breakingPage) ∧
      ControlFree (ValidationError.conversion .query "page" .int breakingPage).message := by
  have declares : search.DeclaresControlFree := ⟨by decide, by decide, by decide⟩
  have refused : (search.check
      (RequestInputs.empty.setQuery "page" breakingPage).provider).result =
      .error (.conversion .query "page" .int breakingPage) := rfl
  exact ⟨declares, by decide, refused,
    ParamSet.messages_control_free search declares _ _ refused⟩

end RequestParams
