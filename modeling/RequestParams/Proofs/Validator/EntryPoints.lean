import RequestParams.Proofs.Validation.Composition
import RequestParams.Proofs.Validation.Trace
import RequestParams.Validator

/-!
# The three ways to put a request to a validator

A request is checked, validated, or handed to a handler. Validation has the result of the check,
with an error rendered, and a handler is called with the arguments of an accepted request. The
events of the check come first in all three; validation adds at most one event, for a failure, and a
handler adds its own, once.
-/

namespace RequestParams

variable {set : ParamSet} {provider : Provider}

theorem ParamSet.events_check :
    (set.check provider).events = (resolveAll provider set.entries).events := by
  rw [check, Logged.events_bind, Logged.events_pure, List.append_nil]

theorem map_arguments_inj {left right : Except ValidationError (List (String × Option Value))} :
    left.map Arguments.mk = right.map Arguments.mk ↔ left = right := by
  cases left <;> cases right <;> simp [Except.map]

theorem ParamSet.check_iff_runs (outcome : Except ValidationError (List (String × Option Value)))
    (events : List Event) :
    (set.check provider).result = outcome.map Arguments.mk ∧ (set.check provider).events = events ↔
      Runs provider set.entries outcome events := by
  have result_eq : (set.check provider).result =
      (resolveAll provider set.entries).result.map Arguments.mk := rfl
  rw [result_eq, map_arguments_inj, events_check, resolveAll_iff_runs]

namespace Validator

variable {v : Validator}

/-! ## Validation -/

theorem validate_of_ok {args : Arguments} (accepted : (set.check provider).result = .ok args) :
    (v.validate set provider).result = .ok args ∧
      (v.validate set provider).events = (set.check provider).events := by
  simp [validate, accepted]

theorem validate_of_error {e : ValidationError} (refused : (set.check provider).result = .error e) :
    (v.validate set provider).result = .error (v.formatError e) ∧
      (v.validate set provider).events = (set.check provider).events ++
        if v.config.logFailures then [.failed e.source e.field e.constraint] else [] := by
  cases logged : v.config.logFailures <;> simp [validate, refused, logged, failedEvent]

theorem validate_eq_ok_iff (args : Arguments) :
    (v.validate set provider).result = .ok args ↔ (set.check provider).result = .ok args := by
  cases checked : (set.check provider).result with
  | ok others => rw [(validate_of_ok checked).1, Except.ok.injEq, Except.ok.injEq]
  | error e => simp [(validate_of_error checked).1]

theorem validate_eq_error_iff (response : Response) :
    (v.validate set provider).result = .error response ↔
      ∃ e, (set.check provider).result = .error e ∧ response = v.formatError e := by
  cases checked : (set.check provider).result with
  | ok args => simp [(validate_of_ok checked).1]
  | error e => simp [(validate_of_error checked).1, @eq_comm _ response]

/-! ## Handlers -/

variable {α : Type} (handler : Arguments → Logged α)

theorem handleLogged_of_ok {args : Arguments} (accepted : (set.check provider).result = .ok args) :
    (v.handleLogged set provider handler).result = .ok (handler args).result ∧
      (v.handleLogged set provider handler).events =
        (v.validate set provider).events ++ (handler args).events := by
  have validated : (v.validate set provider).result = .ok args := (validate_of_ok accepted).1
  simp [handleLogged, validated]

theorem handleLogged_of_error {e : ValidationError}
    (refused : (set.check provider).result = .error e) :
    (v.handleLogged set provider handler).result = .error (v.formatError e) ∧
      (v.handleLogged set provider handler).events = (v.validate set provider).events := by
  have validated : (v.validate set provider).result = .error (v.formatError e) :=
    (validate_of_error refused).1
  simp [handleLogged, validated]

theorem handle_eq_map (act : Arguments → α) :
    (v.handle set provider act).result = (v.validate set provider).result.map act ∧
      (v.handle set provider act).events = (v.validate set provider).events := by
  cases validated : (v.validate set provider).result <;>
    simp [handle, handleLogged, validated, Except.map]

/-- The check runs over the declarations in order and reports what `Runs` says. Validation and a
handler's answer follow from its result: the arguments or the rendered error, which is also the
answer where the handler is not called. Validation adds one event if there is an error and failures
are logged, and none otherwise; a handler that is called adds its own events once. -/
theorem entry_points_agree (v : Validator) (set : ParamSet) (provider : Provider) {α : Type}
    (handler : Arguments → Logged α) (act : Arguments → α) :
    (∀ outcome events,
      (set.check provider).result = outcome.map Arguments.mk ∧
          (set.check provider).events = events ↔
        Runs provider set.entries outcome events) ∧
    (∀ args, (v.validate set provider).result = .ok args ↔
      (set.check provider).result = .ok args) ∧
    (∀ response, (v.validate set provider).result = .error response ↔
      ∃ e, (set.check provider).result = .error e ∧ response = v.formatError e) ∧
    (∀ args, (set.check provider).result = .ok args →
      (v.validate set provider).events = (set.check provider).events ∧
      (v.handleLogged set provider handler).result = .ok (handler args).result ∧
      (v.handleLogged set provider handler).events =
        (set.check provider).events ++ (handler args).events) ∧
    (∀ e, (set.check provider).result = .error e →
      (v.validate set provider).events = (set.check provider).events ++
        (if v.config.logFailures then [.failed e.source e.field e.constraint] else []) ∧
      (v.handleLogged set provider handler).result = .error (v.formatError e) ∧
      (v.handleLogged set provider handler).events = (v.validate set provider).events) ∧
    (v.handle set provider act).result = (v.validate set provider).result.map act ∧
    (v.handle set provider act).events = (v.validate set provider).events := by
  refine ⟨ParamSet.check_iff_runs, validate_eq_ok_iff, validate_eq_error_iff,
    fun args accepted => ?_, fun e refused => ?_, handle_eq_map act⟩
  · have same_events := (validate_of_ok (v := v) accepted).2
    obtain ⟨result_eq, events_eq⟩ := handleLogged_of_ok (v := v) handler accepted
    exact ⟨same_events, result_eq, by rw [events_eq, same_events]⟩
  · obtain ⟨result_eq, events_eq⟩ := handleLogged_of_error (v := v) handler refused
    exact ⟨(validate_of_error refused).2, result_eq, events_eq⟩

end Validator

/-- A validator with the default configuration. -/
def defaultValidator : Validator := ⟨.default, none⟩

/-- A handler that counts its arguments and reports their number. -/
def countArguments (args : Arguments) : Logged Nat := ⟨args.size, [.setRegistered args.size], []⟩

/-- The page `0` is read as an integer and refused, so that the handler is not called; the second
page is accepted and the tag absent, and the handler reports after that. -/
theorem entry_points_agree_search :
    (search.check (RequestInputs.empty.setQuery "page" "0").provider).result =
        .error (.ruleViolation .query "page" "Min" "must be at least 1") ∧
      (defaultValidator.validate search
          (RequestInputs.empty.setQuery "page" "0").provider).events =
        [.coerced "page" .int, .failed .query "page" "Min"] ∧
      (defaultValidator.handleLogged search (RequestInputs.empty.setQuery "page" "0").provider
          countArguments).events = [.coerced "page" .int, .failed .query "page" "Min"] ∧
      (search.check (RequestInputs.empty.setQuery "page" "2").provider).result =
        .ok ⟨[("page", some (.int 2)), ("tag", none)]⟩ ∧
      (defaultValidator.handleLogged search (RequestInputs.empty.setQuery "page" "2").provider
          countArguments).result = .ok 2 ∧
      (defaultValidator.handleLogged search (RequestInputs.empty.setQuery "page" "2").provider
          countArguments).events =
        [.coerced "page" .int, .accepted "page" .query, .absent "tag", .setRegistered 2] := by
  have refused : (search.check (RequestInputs.empty.setQuery "page" "0").provider).result =
      .error (.ruleViolation .query "page" "Min" "must be at least 1") := rfl
  have accepted : (search.check (RequestInputs.empty.setQuery "page" "2").provider).result =
      .ok ⟨[("page", some (.int 2)), ("tag", none)]⟩ := rfl
  obtain ⟨-, -, -, -, first_refused, -⟩ := Validator.entry_points_agree defaultValidator search
    (RequestInputs.empty.setQuery "page" "0").provider countArguments Arguments.size
  obtain ⟨-, -, -, second_accepted, -, -⟩ := Validator.entry_points_agree defaultValidator search
    (RequestInputs.empty.setQuery "page" "2").provider countArguments Arguments.size
  obtain ⟨validated, -, handled⟩ := first_refused _ refused
  obtain ⟨-, counted, reported⟩ := second_accepted _ accepted
  exact ⟨refused, validated, handled.trans validated, accepted, counted, reported⟩

end RequestParams
