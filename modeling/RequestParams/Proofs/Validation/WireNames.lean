import RequestParams.Proofs.RequestInputs.HeaderCase
import RequestParams.Proofs.Validation.TextSources

/-!
# The case of wire names

A header is looked up under its wire name, and its case is of no account: two sets of parameters
that differ in the case of wire names accept the same requests with the same arguments. A request
that one of them refuses is refused by the other at the same parameter for the same reason, in an
error that gives the field the name of the set at hand.
-/

namespace RequestParams

open Text (SameButCase)

/-- The same failure of a field that goes by another name. -/
def ValidationError.withField (e : ValidationError) (field : String) : ValidationError :=
  match e with
  | missing source _ => missing source field
  | conversion source _ target raw => conversion source field target raw
  | typeMismatch source _ expected found => typeMismatch source field expected found
  | ruleViolation source _ rule violation => ruleViolation source field rule violation

/-! ## Parameters -/

namespace Param

/-- The same parameter, under a name of an argument, with the name that it is looked up under in
another case. -/
inductive RespelledAs (name : String) (p : Param) : Param → Prop
  | mk {wire : Option String}
      {sound : { p.toDeclaration with wireName := wire : Declaration }.defect? = none}
      (same : SameButCase (p.lookupName name)
        (lookupName { p.toDeclaration with wireName := wire, sound := sound } name)) :
      RespelledAs name p { p.toDeclaration with wireName := wire, sound := sound }

namespace RespelledAs

variable {p q : Param} {name : String} (respelled : p.RespelledAs name q) (r : RequestInputs)
include respelled

theorem symm : q.RespelledAs name p := by
  obtain ⟨⟨_, _, _, _, _, _, _⟩, sound⟩ := p
  obtain ⟨same⟩ := respelled
  exact .mk same.symm

theorem sameButCase_lookupName : SameButCase (p.lookupName name) (q.lookupName name) := by
  obtain ⟨same⟩ := respelled
  exact same

/-- Only headers have a wire name, and a header is found in either case. -/
theorem lookup_eq :
    r.lookup q.source (q.lookupName name) = r.lookup p.source (p.lookupName name) := by
  have same_name := respelled.sameButCase_lookupName
  obtain ⟨_⟩ := respelled
  cases source_eq : p.source with
  | header =>
      have same_key := (Text.lowerAscii_eq_lowerAscii_iff _ _).mpr same_name
      rw [RequestInputs.lookup, RequestInputs.lookup, same_key]
  | route | query | form | json | file => simp only [lookupName, source_eq]

theorem isAbsent_iff : q.IsAbsent name r.provider ↔ p.IsAbsent name r.provider := by
  have same_lookup := respelled.lookup_eq r
  obtain ⟨_⟩ := respelled
  simp only [IsAbsent, RequestInputs.provider, same_lookup]

theorem isGiven_iff (raw : Value) :
    q.IsGiven name r.provider raw ↔ p.IsGiven name r.provider raw := by
  have same_lookup := respelled.lookup_eq r
  obtain ⟨_⟩ := respelled
  simp only [IsGiven, RequestInputs.provider, same_lookup]

theorem readsAlike : q.ReadsAlike p := by
  obtain ⟨_⟩ := respelled
  exact ⟨rfl, rfl, rfl⟩

theorem candidate (value : Value) (candidate : p.Candidate name r.provider value) :
    q.Candidate name r.provider value := by
  have alike := respelled.readsAlike
  cases candidate with
  | given given coerces =>
      exact .given ((respelled.isGiven_iff r _).mpr given) (alike.coerces coerces)
  | default absent default_eq =>
      refine .default ((respelled.isAbsent_iff r).mpr absent) ?_
      obtain ⟨_⟩ := respelled
      exact default_eq

/-- The parameter ends as the other one does, but for the name of the field. -/
theorem outcome {result : Except ValidationError (Option Value)}
    (ends : p.Outcome name r.provider result) :
    q.Outcome name r.provider (result.mapError (·.withField (q.lookupName name))) := by
  have absent_iff := respelled.isAbsent_iff r
  have given_iff := respelled.isGiven_iff r
  have alike := respelled.readsAlike
  have same_candidate := respelled.candidate r
  obtain ⟨_⟩ := respelled
  cases ends with
  | missing absent no_default required =>
      exact .missing (absent_iff.mpr absent) no_default required
  | unconverted given converts unread =>
      exact .unconverted ((given_iff _).mpr given) ((alike.convertsTo_iff _).mpr converts) unread
  | mismatched not_upload given coerces not_admitted =>
      exact .mismatched not_upload ((given_iff _).mpr given) (alike.coerces coerces) not_admitted
  | refused candidate has_shape rules_eq before_accept refuses =>
      exact .refused (same_candidate _ candidate) has_shape rules_eq before_accept refuses
  | absent absent no_default optional =>
      exact .absent (absent_iff.mpr absent) no_default optional
  | accepted candidate has_shape rules_accept =>
      exact .accepted (same_candidate _ candidate) has_shape rules_accept

end RespelledAs

end Param

/-! ## Runs over declarations -/

/-- The first of the parameters that fails has this name and this error. -/
inductive FailsFirst (provider : Provider) :
    List (String × Param) → String → ValidationError → Prop
  /-- The first parameter fails. -/
  | here {name : String} {p : Param} {rest : List (String × Param)} {e : ValidationError}
      (fails : p.Outcome name provider (.error e)) : FailsFirst provider ((name, p) :: rest) name e
  /-- The first parameter passes, and a later one is the first that fails. -/
  | later {name failing : String} {p : Param} {rest : List (String × Param)}
      {argument : Option Value} {e : ValidationError}
      (passes : p.Outcome name provider (.ok argument))
      (fails : FailsFirst provider rest failing e) :
      FailsFirst provider ((name, p) :: rest) failing e

theorem resolveAll_eq_error_iff_failsFirst (provider : Provider) (entries : List (String × Param))
    (e : ValidationError) :
    (resolveAll provider entries).result = .error e ↔
      ∃ name, FailsFirst provider entries name e := by
  induction entries with
  | nil =>
      constructor
      · intro fails
        cases fails
      · rintro ⟨name, fails⟩
        cases fails
  | cons entry rest induction =>
      obtain ⟨name, p⟩ := entry
      rw [resolveAll_cons_eq_error_iff, induction]
      simp only [namedResult, p.resolve_result_iff]
      constructor
      · rintro (fails | ⟨⟨argument, passes⟩, failing, fails⟩)
        · exact ⟨name, .here fails⟩
        · exact ⟨failing, .later passes fails⟩
      · rintro ⟨failing, fails⟩
        cases fails with
        | here fails => exact .inl fails
        | later passes fails => exact .inr ⟨⟨_, passes⟩, failing, fails⟩

/-- The entry declares the same parameter under the same name, but for the case of its wire name. -/
def RespelledEntry (entry other : String × Param) : Prop :=
  other.1 = entry.1 ∧ entry.2.RespelledAs entry.1 other.2

section Runs

variable {entries others : List (String × Param)} (r : RequestInputs)

/-- The run that fails, fails at the same parameter in another case. -/
theorem FailsFirst.respelled (related : List.Forall₂ RespelledEntry entries others) {name : String}
    {e : ValidationError} (fails : FailsFirst r.provider entries name e) :
    ∃ q, (name, q) ∈ others ∧ SameButCase e.field (q.lookupName name) ∧
      FailsFirst r.provider others name (e.withField (q.lookupName name)) := by
  induction related with
  | nil => cases fails
  | @cons entry other _ _ head _ induction =>
      obtain ⟨declared, q⟩ := other
      obtain ⟨rfl, respelled⟩ := head
      cases fails with
      | here fails =>
          have same_field := (Param.source_field_of_outcome fails).2
          refine ⟨q, List.mem_cons_self, ?_, .here (respelled.outcome r fails)⟩
          exact same_field ▸ respelled.sameButCase_lookupName
      | later passes fails =>
          obtain ⟨failing, failing_mem, same_name, other_fails⟩ := induction fails
          exact ⟨failing, List.mem_cons_of_mem _ failing_mem, same_name,
            .later (respelled.outcome r passes) other_fails⟩

/-- A run that succeeds gives the same arguments in another case. -/
theorem resolveAll_eq_ok_of_respelled (related : List.Forall₂ RespelledEntry entries others)
    {arguments : List (String × Option Value)}
    (succeeds : (resolveAll r.provider entries).result = .ok arguments) :
    (resolveAll r.provider others).result = .ok arguments := by
  induction related generalizing arguments with
  | nil => exact succeeds
  | @cons entry other _ _ head _ induction =>
      obtain ⟨declared, q⟩ := other
      obtain ⟨rfl, respelled⟩ := head
      rw [resolveAll_cons_eq_ok_iff] at succeeds ⊢
      obtain ⟨value, later, first, rest_succeeds, rfl⟩ := succeeds
      have passes := (entry.2.resolve_result_iff _ _ _).mp (congrArg Prod.snd first)
      have other_passes := (q.resolve_result_iff _ _ _).mpr (respelled.outcome r passes)
      exact ⟨value, later, Prod.ext rfl other_passes, induction rest_succeeds, rfl⟩

end Runs

/-! ## Sets -/

namespace ParamSet

/-- The set of the same parameters with wire names in another case. -/
def RespelledAs (set other : ParamSet) : Prop :=
  List.Forall₂ RespelledEntry set.entries other.entries

theorem RespelledAs.symm {set other : ParamSet} (respelled : set.RespelledAs other) :
    other.RespelledAs set := by
  refine List.Forall₂.imp (fun entry moved same => ?_) (List.Forall₂.flip respelled)
  obtain ⟨same_name, same_param⟩ := same
  exact ⟨same_name.symm, same_name ▸ same_param.symm⟩

theorem check_eq_error_iff_failsFirst (set : ParamSet) (provider : Provider) (e : ValidationError) :
    (set.check provider).result = .error e ↔ ∃ name, FailsFirst provider set.entries name e := by
  rw [check_eq_error_iff, ← resolveAll_eq_error_iff, resolveAll_eq_error_iff_failsFirst]

theorem check_eq_ok_of_respelled {set other : ParamSet} (respelled : set.RespelledAs other)
    (r : RequestInputs) {args : Arguments} (accepted : (set.check r.provider).result = .ok args) :
    (other.check r.provider).result = .ok args := by
  rw [check_eq_ok_iff, ← resolveAll_eq_ok_iff] at accepted ⊢
  exact resolveAll_eq_ok_of_respelled r respelled accepted

open RequestInputs in
/-- Headers in another case make no difference to any check. Wire names in another case make none to
accepted requests and their arguments, and a request that is refused is refused at the same
parameter for the same reason, in an error whose field is the name in the other case. -/
theorem headers_case_insensitive (set : ParamSet) (ops : List Operation)
    (distinct : ∀ op ∈ ops, op.KeysDistinct) :
    (∀ moved, List.Forall₂ Operation.Respelled ops moved →
      set.check (ofOperations moved).provider = set.check (ofOperations ops).provider) ∧
    ∀ other : ParamSet, set.RespelledAs other →
      (∀ args, (other.check (ofOperations ops).provider).result = .ok args ↔
        (set.check (ofOperations ops).provider).result = .ok args) ∧
      ∀ e, (set.check (ofOperations ops).provider).result = .error e →
        ∃ name q, (name, q) ∈ other.entries ∧ SameButCase e.field (q.lookupName name) ∧
          FailsFirst (ofOperations ops).provider set.entries name e ∧
          FailsFirst (ofOperations ops).provider other.entries name
            (e.withField (q.lookupName name)) ∧
          (other.check (ofOperations ops).provider).result =
            .error (e.withField (q.lookupName name)) := by
  refine ⟨fun moved respelled => ?_, fun other respelled => ⟨fun args => ?_, fun e refused => ?_⟩⟩
  · rw [provider_ofOperations_eq respelled distinct]
  · exact ⟨check_eq_ok_of_respelled respelled.symm (ofOperations ops),
      check_eq_ok_of_respelled respelled (ofOperations ops)⟩
  · obtain ⟨name, fails⟩ := (check_eq_error_iff_failsFirst set _ e).mp refused
    obtain ⟨q, q_mem, same_name, other_fails⟩ := fails.respelled (ofOperations ops) respelled
    exact ⟨name, q, q_mem, same_name, fails, other_fails,
      (check_eq_error_iff_failsFirst other _ _).mpr ⟨name, other_fails⟩⟩

end ParamSet

/-- The number of a caller, from a header. -/
def callerNumber : Param :=
  { Declaration.ofSource .header (.scalar .int) with
    wireName := some "X-Caller"
    sound := by decide }

/-- The number of a caller from the same header, its name in another case. -/
def respelledCallerNumber : Param :=
  { Declaration.ofSource .header (.scalar .int) with
    wireName := some "x-CALLER"
    sound := by decide }

/-- The only argument is the number of a caller. -/
def callers (number : Param) : ParamSet := .single "caller" number (by decide)

namespace RequestInputs

/-- A caller in a map of headers, and then another one in the same header. -/
def callerTwice : List Operation :=
  [.replace .header [("x-caller", "7"), ("Host", "a")], .set .header "X-Caller" "7a"]

/-- The same with the names in another case, and the map in another order. -/
def respelledCallerTwice : List Operation :=
  [.replace .header [("host", "a"), ("X-CALLER", "7")], .set .header "x-cALLER" "7a"]

/-- The second caller is no number: it is refused in any case of the header, and the error names the
field as the parameter does. -/
theorem headers_case_insensitive_caller :
    (∀ op ∈ callerTwice, op.KeysDistinct) ∧
      List.Forall₂ Operation.Respelled callerTwice respelledCallerTwice ∧
      (callers callerNumber).RespelledAs (callers respelledCallerNumber) ∧
      (callers callerNumber).check (ofOperations respelledCallerTwice).provider =
        (callers callerNumber).check (ofOperations callerTwice).provider ∧
      ((callers callerNumber).check (ofOperations callerTwice).provider).result =
        .error (.conversion .header "X-Caller" .int "7a") ∧
      ((callers respelledCallerNumber).check (ofOperations callerTwice).provider).result =
        .error (.conversion .header "x-CALLER" .int "7a") := by
  have names_distinct :
      (Operation.replace .header [("x-caller", "7"), ("Host", "a")]).KeysDistinct := by
    rw [Operation.KeysDistinct]
    decide
  have distinct : ∀ op ∈ callerTwice, op.KeysDistinct :=
    List.forall_mem_cons.mpr ⟨names_distinct, List.forall_mem_singleton.mpr trivial⟩
  have entries : List.Forall₂ Operation.SameEntry [("x-caller", "7"), ("Host", "a")]
      [("X-CALLER", "7"), ("host", "a")] :=
    .cons ⟨by decide, rfl⟩ (.cons ⟨by decide, rfl⟩ .nil)
  have respelled_ops : List.Forall₂ Operation.Respelled callerTwice respelledCallerTwice :=
    .cons (.replace entries (.swap _ _ _)) (.cons (.set (by decide)) .nil)
  have same_wire : SameButCase "X-Caller" "x-CALLER" := by decide
  have respelled_set : (callers callerNumber).RespelledAs (callers respelledCallerNumber) :=
    .cons ⟨rfl, .mk same_wire⟩ .nil
  have refused : ((callers callerNumber).check (ofOperations callerTwice).provider).result =
      .error (.conversion .header "X-Caller" .int "7a") := rfl
  obtain ⟨same_check, other_sets⟩ :=
    ParamSet.headers_case_insensitive (callers callerNumber) callerTwice distinct
  obtain ⟨name, q, q_mem, -, -, -, other_refused⟩ := (other_sets _ respelled_set).2 _ refused
  obtain ⟨rfl, rfl⟩ := Prod.mk.inj (List.mem_singleton.mp q_mem)
  exact ⟨distinct, respelled_ops, respelled_set, same_check _ respelled_ops, refused, other_refused⟩

end RequestInputs

end RequestParams
