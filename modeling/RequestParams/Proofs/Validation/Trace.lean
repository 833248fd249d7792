import RequestParams.Proofs.Validation.Outcome

/-!
# What is reported while a request is checked

The events of a parameter go with its end: a conversion of text is reported where there was one,
acceptance and absence always, and a failure never. `Runs` puts the ends of single parameters
together, in the order of the declarations and up to the first failure, and says what a run over
declarations comes to and what it reports. The main theorem says that resolution runs in this way
and in no other.
-/

namespace RequestParams

namespace Param

variable (p : Param) (name : String) (provider : Provider)

/-- The events of the parameter, by its end. -/
inductive Reports : Except ValidationError (Option Value) → List Event → Prop
  /-- An accepted text that has a target has been converted. -/
  | acceptedText {value : Value} {text : String} {target : Scalar}
      (given : p.IsGiven name provider (.str text)) (converts : p.ConvertsTo target) :
      Reports (.ok (some value)) [.coerced (p.lookupName name) target, .accepted name p.source]
  /-- Anything else is accepted without a conversion. -/
  | acceptedAsIs {value : Value}
      (kept : ∀ text, p.IsGiven name provider (.str text) → ∀ target, ¬p.ConvertsTo target) :
      Reports (.ok (some value)) [.accepted name p.source]
  /-- An optional parameter is absent. -/
  | absent : Reports (.ok none) [.absent name]
  /-- A text has been converted, and the parameter is refused after that. -/
  | refusedText {e : ValidationError} {text : String} {target : Scalar} {value : Value}
      (given : p.IsGiven name provider (.str text)) (converts : p.ConvertsTo target)
      (read : target.read? text = some value) :
      Reports (.error e) [.coerced (p.lookupName name) target]
  /-- The parameter is refused, and no text has been converted. -/
  | refusedAsIs {e : ValidationError}
      (unread : ∀ text, p.IsGiven name provider (.str text) → ∀ target, p.ConvertsTo target →
        target.read? text = none) :
      Reports (.error e) []

/-- The parameter has this end and these events. -/
structure Ends (outcome : Except ValidationError (Option Value)) (events : List Event) : Prop where
  /-- The end is one that the parameter may have. -/
  allowed : p.Outcome name provider outcome
  /-- The events go with it. -/
  reports : p.Reports name provider outcome events

variable {p name provider}

/-! ## What is given, and its target, are unique -/

theorem IsGiven.unique {raw other : Value} (given : p.IsGiven name provider raw)
    (again : p.IsGiven name provider other) : raw = other := by
  have found := (p.rawValue?_eq_some_iff name provider raw).mpr given
  have found_again := (p.rawValue?_eq_some_iff name provider other).mpr again
  exact Option.some.inj (found.symm.trans found_again)

theorem IsAbsent.not_isGiven (absent : p.IsAbsent name provider) (raw : Value) :
    ¬p.IsGiven name provider raw := by
  intro given
  have nothing := (p.rawValue?_eq_none_iff name provider).mpr absent
  rw [(p.rawValue?_eq_some_iff name provider raw).mpr given] at nothing
  cases nothing

theorem ConvertsTo.unique {target other : Scalar} (converts : p.ConvertsTo target)
    (again : p.ConvertsTo other) : target = other :=
  Shape.scalar.inj (converts.first_choice.symm.trans again.first_choice)

theorem Reports.unique {outcome : Except ValidationError (Option Value)}
    {events others : List Event} (reports : p.Reports name provider outcome events)
    (again : p.Reports name provider outcome others) : events = others := by
  cases reports with
  | acceptedText given converts =>
      cases again with
      | acceptedText _ converts_again => rw [converts.unique converts_again]
      | acceptedAsIs kept => exact absurd converts (kept _ given _)
  | acceptedAsIs kept =>
      cases again with
      | acceptedText given converts => exact absurd converts (kept _ given _)
      | acceptedAsIs => rfl
  | absent =>
      cases again with
      | absent => rfl
  | refusedText given converts read =>
      cases again with
      | refusedText _ converts_again => rw [converts.unique converts_again]
      | refusedAsIs unread =>
          rw [unread _ given _ converts] at read
          cases read
  | refusedAsIs unread =>
      cases again with
      | refusedText given converts read =>
          rw [unread _ given _ converts] at read
          cases read
      | refusedAsIs => rfl

/-! ## Events of the stages -/

theorem events_coerce_of_read {target : Scalar} (converts : p.ConvertsTo target) {text : String}
    {value : Value} (read : target.read? text = some value) (field : String) :
    (coerce (.str text) p.shape p.source field).events = [.coerced field target] := by
  rw [p.coerce_text_eq converts, read]

theorem events_coerce_of_unread {target : Scalar} (converts : p.ConvertsTo target) {text : String}
    (unread : target.read? text = none) (field : String) :
    (coerce (.str text) p.shape p.source field).events = [] := by
  rw [p.coerce_text_eq converts, unread]

theorem events_coerce_of_kept {raw : Value}
    (kept : ∀ text, raw = .str text → ∀ target, ¬p.ConvertsTo target) (field : String) :
    (coerce raw p.shape p.source field).events = [] := by
  rw [p.coerce_eq_pure kept, Logged.events_pure]

theorem events_firstRefusal? (value : Value) (rules : List Rule) :
    (firstRefusal? value rules).events = [] := by
  induction rules with
  | nil => rfl
  | cons rule rules induction =>
      rw [firstRefusal?, Logged.events_bind]
      cases accepted : rule.accepts value with
      | false => simp [Rule.test, accepted]
      | true => simpa [Rule.test, accepted] using induction

/-- The rules report that they accept a value, and report nothing when they refuse it. -/
theorem checkRules_reports (p : Param) (name : String) (value : Value) :
    (p.checkRules name value).result = .ok (some value) ∧
        (p.checkRules name value).events = [.accepted name p.source] ∨
      ∃ e, (p.checkRules name value).result = .error e ∧ (p.checkRules name value).events = [] := by
  simp only [checkRules, Logged.result_bind, Logged.events_bind, events_firstRefusal?]
  cases (firstRefusal? value p.rules).result with
  | none => exact .inl ⟨rfl, rfl⟩
  | some rule => exact .inr ⟨_, rfl, rfl⟩

/-- A given value is accepted or refused after its coercion, and only acceptance is reported. -/
theorem resolveGiven_reports (name : String) {raw value : Value} (coerces : p.Coerces raw value) :
    (∃ accepted, (p.resolveGiven name raw).result = .ok (some accepted) ∧
        (p.resolveGiven name raw).events =
          (coerce raw p.shape p.source (p.lookupName name)).events ++ [.accepted name p.source]) ∨
      ∃ e, (p.resolveGiven name raw).result = .error e ∧
        (p.resolveGiven name raw).events =
          (coerce raw p.shape p.source (p.lookupName name)).events := by
  simp only [resolveGiven, Logged.result_bind, Logged.events_bind, p.coerce_eq_ok coerces]
  cases p.checkShape name value with
  | error e => exact .inr ⟨e, rfl, List.append_nil _⟩
  | ok admitted =>
      rcases p.checkRules_reports name admitted with ⟨accepted, events⟩ | ⟨e, refused, events⟩
      · exact .inl ⟨admitted, accepted, by rw [events]⟩
      · exact .inr ⟨e, refused, by rw [events, List.append_nil]⟩

theorem resolveGiven_reports_of_unread {text : String} {target : Scalar}
    (converts : p.ConvertsTo target) (unread : target.read? text = none) :
    ∃ e, (p.resolveGiven name (.str text)).result = .error e ∧
      (p.resolveGiven name (.str text)).events = [] := by
  refine ⟨_, p.resolveGiven_of_unread name converts unread, ?_⟩
  simp only [resolveGiven, Logged.events_bind, events_coerce_of_unread converts unread,
    p.coerce_of_converts converts, unread, Logged.events_pure, List.append_nil]

/-! ## Events of resolution -/

theorem reports_resolveMissing (absent : p.IsAbsent name provider) :
    p.Reports name provider (p.resolveMissing name).result (p.resolveMissing name).events := by
  unfold resolveMissing
  split
  · rename_i value default_eq
    rcases p.checkRules_reports name value with ⟨accepted, events⟩ | ⟨e, refused, events⟩
    · rw [accepted, events]
      exact .acceptedAsIs fun text given => absurd given (absent.not_isGiven _)
    · rw [refused, events]
      exact .refusedAsIs fun text given => absurd given (absent.not_isGiven _)
  · split
    · exact .absent
    · exact .refusedAsIs fun text given => absurd given (absent.not_isGiven _)

theorem reports_resolveGiven {raw : Value} (given : p.IsGiven name provider raw) :
    p.Reports name provider (p.resolveGiven name raw).result (p.resolveGiven name raw).events := by
  rcases p.coerces_or_unread raw with ⟨value, coerces⟩ | ⟨text, target, rfl, converts, unread⟩
  · have ends := resolveGiven_reports name coerces
    cases coerces with
    | converted converts read =>
        rw [events_coerce_of_read converts read] at ends
        rcases ends with ⟨accepted, result_eq, events_eq⟩ | ⟨e, result_eq, events_eq⟩
        · rw [result_eq, events_eq]
          exact .acceptedText given converts
        · rw [result_eq, events_eq]
          exact .refusedText given converts read
    | unchanged kept =>
        have no_target : ∀ text, p.IsGiven name provider (.str text) →
            ∀ target, ¬p.ConvertsTo target :=
          fun text text_given => kept text (given.unique text_given)
        rw [events_coerce_of_kept kept] at ends
        rcases ends with ⟨accepted, result_eq, events_eq⟩ | ⟨e, result_eq, events_eq⟩
        · rw [result_eq, events_eq]
          exact .acceptedAsIs no_target
        · rw [result_eq, events_eq]
          exact .refusedAsIs fun text text_given target converts =>
            absurd converts (no_target text text_given target)
  · obtain ⟨e, result_eq, events_eq⟩ := resolveGiven_reports_of_unread converts unread
    rw [result_eq, events_eq]
    refine .refusedAsIs fun other other_given other_target other_converts => ?_
    obtain rfl := Value.str.inj (given.unique other_given)
    obtain rfl := converts.unique other_converts
    exact unread

theorem reports_resolve (p : Param) (name : String) (provider : Provider) :
    p.Reports name provider (p.resolve name provider).result (p.resolve name provider).events := by
  rcases p.absent_or_given name provider with absent | ⟨raw, given⟩
  · rw [p.resolve_of_absent name provider absent]
    exact reports_resolveMissing absent
  · rw [p.resolve_of_given name provider given]
    exact reports_resolveGiven given

theorem ends_resolve (p : Param) (name : String) (provider : Provider) :
    p.Ends name provider (p.resolve name provider).result (p.resolve name provider).events :=
  ⟨p.outcome_resolve name provider, p.reports_resolve name provider⟩

/-- An end with its events is that of resolution. -/
theorem Ends.resolve_eq {outcome : Except ValidationError (Option Value)} {events : List Event}
    (ends : p.Ends name provider outcome events) :
    (p.resolve name provider).result = outcome ∧ (p.resolve name provider).events = events := by
  have result_eq := p.resolve_of_outcome name provider ends.allowed
  have reports := p.reports_resolve name provider
  rw [result_eq] at reports
  exact ⟨result_eq, reports.unique ends.reports⟩

end Param

/-! ## Runs over declarations -/

/-- What a run over declarations comes to, and what it reports. -/
inductive Runs (provider : Provider) :
    List (String × Param) → Except ValidationError (List (String × Option Value)) →
      List Event → Prop
  /-- Nothing is left to resolve. -/
  | done : Runs provider [] (.ok []) []
  /-- The first parameter fails, and those after it are not resolved. -/
  | stopped {name : String} {p : Param} {rest : List (String × Param)} {e : ValidationError}
      {events : List Event} (fails : p.Ends name provider (.error e) events) :
      Runs provider ((name, p) :: rest) (.error e) events
  /-- The first parameter passes, and the run goes on with the others. -/
  | passed {name : String} {p : Param} {rest : List (String × Param)} {argument : Option Value}
      {events later : List Event} {outcome : Except ValidationError (List (String × Option Value))}
      (passes : p.Ends name provider (.ok argument) events)
      (run : Runs provider rest outcome later) :
      Runs provider ((name, p) :: rest) (outcome.map ((name, argument) :: ·)) (events ++ later)

variable {provider : Provider}

theorem resolveAll_of_error {name : String} {p : Param} (rest : List (String × Param))
    {e : ValidationError} (fails : (p.resolve name provider).result = .error e) :
    (resolveAll provider ((name, p) :: rest)).result = .error e ∧
      (resolveAll provider ((name, p) :: rest)).events = (p.resolve name provider).events := by
  simp [resolveAll, fails]

theorem resolveAll_of_ok {name : String} {p : Param} (rest : List (String × Param))
    {argument : Option Value} (passes : (p.resolve name provider).result = .ok argument) :
    (resolveAll provider ((name, p) :: rest)).result =
        (resolveAll provider rest).result.map ((name, argument) :: ·) ∧
      (resolveAll provider ((name, p) :: rest)).events =
        (p.resolve name provider).events ++ (resolveAll provider rest).events := by
  simp only [resolveAll, Logged.result_bind, Logged.events_bind, passes]
  cases (resolveAll provider rest).result <;> simp [Except.map]

theorem runs_resolveAll (provider : Provider) (entries : List (String × Param)) :
    Runs provider entries (resolveAll provider entries).result
      (resolveAll provider entries).events := by
  induction entries with
  | nil => exact .done
  | cons entry rest induction =>
      obtain ⟨name, p⟩ := entry
      have ends := p.ends_resolve name provider
      cases resolved : (p.resolve name provider).result with
      | error e =>
          obtain ⟨result_eq, events_eq⟩ := resolveAll_of_error rest resolved
          rw [result_eq, events_eq]
          exact .stopped (resolved ▸ ends)
      | ok argument =>
          obtain ⟨result_eq, events_eq⟩ := resolveAll_of_ok rest resolved
          rw [result_eq, events_eq]
          exact .passed (resolved ▸ ends) induction

theorem Runs.resolveAll_eq {entries : List (String × Param)}
    {outcome : Except ValidationError (List (String × Option Value))} {events : List Event}
    (run : Runs provider entries outcome events) :
    (resolveAll provider entries).result = outcome ∧
      (resolveAll provider entries).events = events := by
  induction run with
  | done => exact ⟨rfl, rfl⟩
  | stopped fails =>
      obtain ⟨resolved, reported⟩ := fails.resolve_eq
      obtain ⟨result_eq, events_eq⟩ := resolveAll_of_error _ resolved
      exact ⟨result_eq, events_eq.trans reported⟩
  | passed passes _ induction =>
      obtain ⟨resolved, reported⟩ := passes.resolve_eq
      obtain ⟨result_eq, events_eq⟩ := resolveAll_of_ok _ resolved
      rw [result_eq, events_eq, reported, induction.1, induction.2]
      exact ⟨rfl, rfl⟩

/-- A run over declarations comes to its result with its events as the relation says, and in no
other way. -/
theorem resolveAll_iff_runs (entries : List (String × Param))
    (outcome : Except ValidationError (List (String × Option Value))) (events : List Event) :
    (resolveAll provider entries).result = outcome ∧ (resolveAll provider entries).events = events ↔
      Runs provider entries outcome events := by
  constructor
  · rintro ⟨rfl, rfl⟩
    exact runs_resolveAll provider entries
  · exact Runs.resolveAll_eq

end RequestParams
