import RequestParams.Proofs.Config.Settings
import RequestParams.Proofs.Validator.EntryPoints

/-!
# Failures of a validator with settings of its environment

Without a formatter of its own, a validator renders an error as an object with one member. Settings
that were looked up make that member findable and the status one of an error.
-/

namespace RequestParams

namespace Validator

theorem formatError_of_formatter_eq_none {v : Validator} (plain : v.formatter = none)
    (e : ValidationError) :
    v.formatError e =
      ⟨e.message, v.config.failureStatus, .object [(v.config.errorKey, .string e.message)]⟩ := by
  rw [formatError, plain]
  rfl

/-- Whatever its variables hold, a validator with looked-up settings and no formatter answers a
request that fails with a status of a client or server error and an object of one member: its key is
not blank, and its text is the message of the error that the check found. -/
theorem failure_names_message (lookup : String → Option String) (v : Validator)
    (configured : v.config = .ofLookup lookup) (plain : v.formatter = none) (set : ParamSet)
    (provider : Provider) (response : Response)
    (fails : (v.validate set provider).result = .error response) :
    400 ≤ response.status.toNat ∧ response.status.toNat ≤ 599 ∧
      ∃ key, (∃ char ∈ key.toList, Text.isBlank char = false) ∧
        response.body = .object [(key, .string response.message)] ∧
        ∃ e, (set.check provider).result = .error e ∧ response.message = e.message := by
  have usable : v.config.IsUsable := configured ▸ Config.isUsable_ofLookup lookup
  obtain ⟨e, refused, rfl⟩ := (validate_eq_error_iff response).mp fails
  rw [formatError_of_formatter_eq_none plain]
  exact ⟨usable.status_ge, usable.status_le, v.config.errorKey, usable.key_visible, rfl, e,
    refused, rfl⟩

end Validator

/-- Variables with a status among blanks and leading zeros, and a blank key. -/
def paddedVariables : String → Option String :=
  ([("PARAPET_FAILURE_STATUS", " +00422\n"), ("PARAPET_ERROR_KEY", " \t")].lookup ·)

/-- The status of the variables is used, and the default key in place of the blank one. -/
theorem failure_names_message_padded :
    ((⟨.ofLookup paddedVariables, none⟩ : Validator).validate search
        (RequestInputs.empty.setQuery "page" "0").provider).result =
      .error ⟨"In Query, 'page' must be at least 1", 422,
        .object [("error", .string "In Query, 'page' must be at least 1")]⟩ ∧
      ∃ e, (search.check (RequestInputs.empty.setQuery "page" "0").provider).result = .error e ∧
        "In Query, 'page' must be at least 1" = e.message := by
  have fails : ((⟨.ofLookup paddedVariables, none⟩ : Validator).validate search
      (RequestInputs.empty.setQuery "page" "0").provider).result =
      .error ⟨"In Query, 'page' must be at least 1", 422,
        .object [("error", .string "In Query, 'page' must be at least 1")]⟩ := rfl
  obtain ⟨-, -, -, -, -, found⟩ := Validator.failure_names_message paddedVariables
    ⟨.ofLookup paddedVariables, none⟩ rfl rfl search _ _ fails
  exact ⟨fails, found⟩

end RequestParams
