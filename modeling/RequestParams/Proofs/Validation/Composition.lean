import RequestParams.Proofs.Lookup
import RequestParams.RequestInputs
import RequestParams.Validation

/-!
# Composition of parameters

A set of parameters is checked as if each parameter were checked by itself, in order, up to the
first failure: arguments are put together from those of the single parameters, and the error is that
of the first single parameter that fails. No parameter can therefore influence another one, and the
order of the declarations decides which failure is reported and nothing else.
-/

namespace RequestParams

/-! ## Runs over a list of declarations -/

/-- What becomes of a named parameter, with its name. -/
def namedResult (provider : Provider) (entry : String × Param) :
    String × Except ValidationError (Option Value) :=
  (entry.1, (entry.2.resolve entry.1 provider).result)

/-- An argument as the result of an accepted or absent parameter. -/
def namedArgument (argument : String × Option Value) :
    String × Except ValidationError (Option Value) :=
  (argument.1, .ok argument.2)

/-- A run over a further parameter succeeds when that parameter and the run over the rest do. -/
theorem resolveAll_cons_eq_ok_iff (provider : Provider) (entry : String × Param)
    (rest : List (String × Param)) (arguments : List (String × Option Value)) :
    (resolveAll provider (entry :: rest)).result = .ok arguments ↔
      ∃ value others, namedResult provider entry = namedArgument (entry.1, value) ∧
        (resolveAll provider rest).result = .ok others ∧
        arguments = (entry.1, value) :: others := by
  obtain ⟨name, p⟩ := entry
  simp only [resolveAll, Logged.result_bind, namedResult, namedArgument, Prod.mk.injEq, true_and]
  cases (p.resolve name provider).result with
  | error e => simp
  | ok value =>
      simp only [Logged.result_bind]
      cases (resolveAll provider rest).result with
      | error e => simp
      | ok others => simp [@eq_comm _ arguments]

/-- A run over a further parameter fails when that parameter does, or else the run over the rest. -/
theorem resolveAll_cons_eq_error_iff (provider : Provider) (entry : String × Param)
    (rest : List (String × Param)) (e : ValidationError) :
    (resolveAll provider (entry :: rest)).result = .error e ↔
      (namedResult provider entry).2 = .error e ∨
        (∃ value, (namedResult provider entry).2 = .ok value) ∧
          (resolveAll provider rest).result = .error e := by
  obtain ⟨name, p⟩ := entry
  simp only [resolveAll, Logged.result_bind, namedResult]
  cases (p.resolve name provider).result with
  | error other => simp
  | ok value =>
      simp only [Logged.result_bind]
      cases (resolveAll provider rest).result <;> simp

/-- A run succeeds with the arguments that the parameters have one by one. -/
theorem resolveAll_eq_ok_iff (provider : Provider) (entries : List (String × Param))
    (arguments : List (String × Option Value)) :
    (resolveAll provider entries).result = .ok arguments ↔
      entries.map (namedResult provider) = arguments.map namedArgument := by
  -- The run over the rest has its own arguments, those without the first.
  induction entries generalizing arguments with
  | nil => simp [resolveAll, eq_comm]
  | cons entry rest induction =>
      rw [resolveAll_cons_eq_ok_iff, List.map_cons]
      constructor
      · rintro ⟨value, others, first, succeeds, rfl⟩
        rw [first, (induction others).mp succeeds, List.map_cons]
      · intro results_eq
        obtain ⟨argument, others, rfl, first, succeeds⟩ := List.map_eq_cons_iff.mp results_eq.symm
        have name_eq : argument.1 = entry.1 := congrArg Prod.fst first
        refine ⟨argument.2, others, ?_, (induction others).mpr succeeds.symm, ?_⟩
        · rw [← first, ← name_eq]
        · rw [← name_eq]

/-- A run fails with the error of the first parameter that fails. -/
theorem resolveAll_eq_error_iff (provider : Provider) (entries : List (String × Param))
    (e : ValidationError) :
    (resolveAll provider entries).result = .error e ↔
      ∃ (arguments : List (String × Option Value)) (name : String) (after : List _),
        entries.map (namedResult provider) =
        arguments.map namedArgument ++ (name, .error e) :: after := by
  induction entries with
  | nil => simp [resolveAll]
  | cons entry rest induction =>
      rw [resolveAll_cons_eq_error_iff, induction, List.map_cons]
      constructor
      · rintro (fails | ⟨⟨value, succeeds⟩, arguments, name, after, results_eq⟩)
        · exact ⟨[], entry.1, rest.map (namedResult provider), by rw [← fails]; rfl⟩
        · refine ⟨(entry.1, value) :: arguments, name, after, ?_⟩
          rw [results_eq, List.map_cons, List.cons_append, namedArgument, ← succeeds]
          rfl
      · rintro ⟨arguments, name, after, results_eq⟩
        cases arguments with
        | nil =>
            obtain ⟨first, -⟩ := List.cons.inj results_eq
            exact .inl (congrArg Prod.snd first)
        | cons argument arguments =>
            obtain ⟨first, tail⟩ := List.cons.inj results_eq
            exact .inr ⟨⟨argument.2, congrArg Prod.snd first⟩, arguments, name, after, tail⟩

/-! ## Sets of one parameter -/

namespace ParamSet

/-- The set of one parameter. -/
def single (name : String) (p : Param) (nonempty : name ≠ "") : ParamSet where
  entries := [(name, p)]
  names_nonempty := by simpa using nonempty
  names_nodup := by simp

/-- The parameters of a set in order, each as a set of its own. -/
def singles (set : ParamSet) : List ParamSet :=
  set.entries.pmap (fun entry nonempty => single entry.1 entry.2 nonempty) set.names_nonempty

theorem check_eq_ok_iff (set : ParamSet) (provider : Provider) (args : Arguments) :
    (set.check provider).result = .ok args ↔
      set.entries.map (namedResult provider) = args.entries.map namedArgument := by
  rw [← resolveAll_eq_ok_iff, check, Logged.result_bind, Logged.result_pure]
  cases (resolveAll provider set.entries).result with
  | error e => simp [Except.map]
  | ok arguments => cases args; simp [Except.map]

theorem check_eq_error_iff (set : ParamSet) (provider : Provider) (e : ValidationError) :
    (set.check provider).result = .error e ↔
      ∃ (arguments : List (String × Option Value)) (name : String) (after : List _),
        set.entries.map (namedResult provider) =
          arguments.map namedArgument ++ (name, .error e) :: after := by
  rw [← resolveAll_eq_error_iff, check, Logged.result_bind, Logged.result_pure]
  cases (resolveAll provider set.entries).result <;> simp [Except.map]

/-- Sets whose parameters have the same names and results one by one have the same result. -/
theorem check_result_congr {set other : ParamSet} {provider : Provider}
    (results_eq : other.entries.map (namedResult provider) =
      set.entries.map (namedResult provider)) :
    (other.check provider).result = (set.check provider).result := by
  cases result_eq : (set.check provider).result with
  | ok args =>
      rw [check_eq_ok_iff, results_eq]
      exact (check_eq_ok_iff set provider args).mp result_eq
  | error e =>
      rw [check_eq_error_iff, results_eq]
      exact (check_eq_error_iff set provider e).mp result_eq

/-- A named result as the result of a set of one parameter. -/
def singleResult (named : String × Except ValidationError (Option Value)) :
    Except ValidationError Arguments :=
  named.2.map fun value => ⟨[(named.1, value)]⟩

theorem check_single (provider : Provider) (name : String) (p : Param) (nonempty : name ≠ "") :
    ((single name p nonempty).check provider).result =
      singleResult (namedResult provider (name, p)) := by
  cases resolved : (p.resolve name provider).result with
  | error e =>
      have result_eq : singleResult (namedResult provider (name, p)) = .error e := by
        simp [singleResult, namedResult, resolved, Except.map]
      rw [result_eq, check_eq_error_iff]
      exact ⟨[], name, [], by simp [single, namedResult, resolved]⟩
  | ok value =>
      have result_eq : singleResult (namedResult provider (name, p)) = .ok ⟨[(name, value)]⟩ := by
        simp [singleResult, namedResult, resolved, Except.map]
      rw [result_eq, check_eq_ok_iff]
      simp [single, namedResult, resolved, namedArgument]

theorem results_singles (set : ParamSet) (provider : Provider) :
    set.singles.map (fun alone => (alone.check provider).result) =
      (set.entries.map (namedResult provider)).map singleResult := by
  simp [singles, List.map_pmap, check_single]

theorem singles_of_perm {set other : ParamSet} (perm : other.entries.Perm set.entries) :
    other.singles.Perm set.singles :=
  perm.pmap _

theorem singleResult_eq_ok_iff (named : String × Except ValidationError (Option Value))
    (part : Arguments) :
    singleResult named = .ok part ↔
      ∃ argument, named = namedArgument argument ∧ part = ⟨[argument]⟩ := by
  constructor
  · obtain ⟨name, result⟩ := named
    intro succeeds
    cases result with
    | error e => cases succeeds
    | ok value => exact ⟨(name, value), rfl, (Except.ok.inj succeeds).symm⟩
  · rintro ⟨argument, rfl, rfl⟩
    rfl

theorem singleResult_eq_error_iff (named : String × Except ValidationError (Option Value))
    (e : ValidationError) : singleResult named = .error e ↔ named.2 = .error e := by
  obtain ⟨name, result⟩ := named
  cases result <;> simp [singleResult, Except.map]

/-- Results of single parameters are all arguments when they come from arguments. -/
theorem map_singleResult_eq_ok_iff (results : List (String × Except ValidationError (Option Value)))
    (parts : List Arguments) :
    results.map singleResult = parts.map .ok ↔
      ∃ arguments : List (String × Option Value), results = arguments.map namedArgument ∧
        parts = arguments.map fun argument => ⟨[argument]⟩ := by
  constructor
  · intro results_eq
    induction results generalizing parts with
    | nil => exact ⟨[], rfl, by simpa using results_eq.symm⟩
    | cons named results induction =>
        obtain ⟨part, rest, rfl, first, tail⟩ := List.map_eq_cons_iff.mp results_eq.symm
        obtain ⟨argument, rfl, rfl⟩ := (singleResult_eq_ok_iff named part).mp first.symm
        obtain ⟨arguments, rfl, rfl⟩ := induction rest tail.symm
        exact ⟨argument :: arguments, rfl, rfl⟩
  · rintro ⟨arguments, rfl, rfl⟩
    simp only [List.map_map]
    rfl

/-! ## Composition -/

/-- A set is accepted with the arguments of its parameters by themselves, put together in order. -/
theorem check_eq_ok_iff_singles (set : ParamSet) (provider : Provider) (args : Arguments) :
    (set.check provider).result = .ok args ↔
      ∃ parts : List Arguments,
        set.singles.map (fun alone => (alone.check provider).result) = parts.map .ok ∧
        args.entries = parts.flatMap Arguments.entries := by
  rw [check_eq_ok_iff]
  simp only [results_singles, map_singleResult_eq_ok_iff]
  constructor
  · intro results_eq
    exact ⟨_, ⟨args.entries, results_eq, rfl⟩, by simp [List.flatMap_map]⟩
  · rintro ⟨parts, ⟨arguments, results_eq, rfl⟩, entries_eq⟩
    rw [results_eq, entries_eq]
    simp [List.flatMap_map]

/-- A set fails with the error of the first of its parameters that fails by itself. -/
theorem check_eq_error_iff_singles (set : ParamSet) (provider : Provider) (e : ValidationError) :
    (set.check provider).result = .error e ↔
      ∃ (parts : List Arguments) (after : List (Except ValidationError Arguments)),
        set.singles.map (fun alone => (alone.check provider).result) =
          parts.map .ok ++ .error e :: after := by
  rw [check_eq_error_iff, results_singles]
  constructor
  · rintro ⟨arguments, name, after, results_eq⟩
    refine ⟨arguments.map fun argument => ⟨[argument]⟩, after.map singleResult, ?_⟩
    rw [results_eq, List.map_append, List.map_cons,
      (map_singleResult_eq_ok_iff _ _).mpr ⟨arguments, rfl, rfl⟩]
    rfl
  · rintro ⟨parts, after, results_eq⟩
    obtain ⟨before, failing, split, before_eq, failing_eq⟩ := List.map_eq_append_iff.mp results_eq
    obtain ⟨arguments, rfl, -⟩ := (map_singleResult_eq_ok_iff _ _).mp before_eq
    obtain ⟨named, rest, rfl, fails, -⟩ := List.map_eq_cons_iff.mp failing_eq
    rw [singleResult_eq_error_iff] at fails
    exact ⟨arguments, named.1, rest, by rw [split, ← fails]⟩

theorem exists_check_eq_ok_iff (set : ParamSet) (provider : Provider) :
    (∃ args, (set.check provider).result = .ok args) ↔
      ∀ alone ∈ set.singles, ∃ part, (alone.check provider).result = .ok part := by
  constructor
  · rintro ⟨args, succeeds⟩ alone alone_mem
    obtain ⟨parts, results_eq, -⟩ := (check_eq_ok_iff_singles set provider args).mp succeeds
    have result_mem : (alone.check provider).result ∈ parts.map Except.ok :=
      results_eq ▸ List.mem_map_of_mem alone_mem
    obtain ⟨part, -, part_eq⟩ := List.mem_map.mp result_mem
    exact ⟨part, part_eq.symm⟩
  · intro all_succeed
    cases result_eq : (set.check provider).result with
    | ok args => exact ⟨args, rfl⟩
    | error e =>
        obtain ⟨parts, after, results_eq⟩ :=
          (check_eq_error_iff_singles set provider e).mp result_eq
        have error_mem : Except.error e ∈
            set.singles.map fun alone => (alone.check provider).result := by
          rw [results_eq]
          exact List.mem_append_right _ List.mem_cons_self
        obtain ⟨alone, alone_mem, fails⟩ := List.mem_map.mp error_mem
        obtain ⟨part, succeeds⟩ := all_succeed alone alone_mem
        rw [fails] at succeeds
        cases succeeds

/-- The argument of a name is what the parameter of that name resolves to. -/
theorem lookup_of_check_eq_ok {set : ParamSet} {provider : Provider} {args : Arguments}
    (succeeds : (set.check provider).result = .ok args) (name : String) :
    (args.entries.lookup name).map Except.ok =
      (set.get? name).map fun p => (p.resolve name provider).result := by
  have results_eq := (check_eq_ok_iff set provider args).mp succeeds
  calc
    (args.entries.lookup name).map Except.ok = (args.entries.map namedArgument).lookup name :=
      (lookup_map (fun _ value => Except.ok value) args.entries name).symm
    _ = (set.entries.map (namedResult provider)).lookup name := by rw [results_eq]
    _ = (set.get? name).map fun p => (p.resolve name provider).result :=
      lookup_map (fun name p => (Param.resolve p name provider).result) set.entries name

theorem lookup_eq_of_perm {set other : ParamSet} (perm : other.entries.Perm set.entries)
    {provider : Provider} {args otherArgs : Arguments}
    (succeeds : (set.check provider).result = .ok args)
    (otherSucceeds : (other.check provider).result = .ok otherArgs) (name : String) :
    otherArgs.entries.lookup name = args.entries.lookup name := by
  have same_param : other.get? name = set.get? name := lookup_of_perm perm other.names_nodup name
  have same_results : (otherArgs.entries.lookup name).map (Except.ok (ε := ValidationError)) =
      (args.entries.lookup name).map Except.ok := by
    rw [lookup_of_check_eq_ok otherSucceeds, lookup_of_check_eq_ok succeeds, same_param]
  exact (Option.map_inj_right fun _ _ => Except.ok.inj).mp same_results

end ParamSet

theorem Arguments.contains_eq_isSome_lookup (args : Arguments) (name : String) :
    args.contains name = (args.entries.lookup name).isSome := by
  rw [Bool.eq_iff_iff, List.lookup_isSome_iff, contains, List.any_eq_true]
  simp only [beq_iff_eq, @eq_comm _ name]

namespace ParamSet

/-- Checking a set is composed of checking its parameters one by one: it succeeds when each of them
does by itself, with their arguments in order, and fails as the first of them that fails. In another
order of the same declarations success and the value of each name stay the same. -/
theorem check_composition (set : ParamSet) (provider : Provider) :
    ((∃ args, (set.check provider).result = .ok args) ↔
      ∀ alone ∈ set.singles, ∃ part, (alone.check provider).result = .ok part) ∧
    (∀ args, (set.check provider).result = .ok args ↔
      ∃ parts : List Arguments,
        set.singles.map (fun alone => (alone.check provider).result) = parts.map .ok ∧
        args.entries = parts.flatMap Arguments.entries) ∧
    (∀ e, (set.check provider).result = .error e ↔
      ∃ (parts : List Arguments) (after : List (Except ValidationError Arguments)),
        set.singles.map (fun alone => (alone.check provider).result) =
          parts.map .ok ++ .error e :: after) ∧
    ∀ other : ParamSet, other.entries.Perm set.entries →
      other.singles.Perm set.singles ∧
      ((∃ args, (other.check provider).result = .ok args) ↔
        ∃ args, (set.check provider).result = .ok args) ∧
      ∀ args otherArgs, (set.check provider).result = .ok args →
        (other.check provider).result = .ok otherArgs → ∀ name,
          otherArgs.get? name = args.get? name ∧ otherArgs.contains name = args.contains name := by
  refine ⟨exists_check_eq_ok_iff set provider, check_eq_ok_iff_singles set provider,
    check_eq_error_iff_singles set provider, fun other perm => ?_⟩
  have same_singles := singles_of_perm perm
  refine ⟨same_singles, ?_, fun args otherArgs succeeds otherSucceeds name => ?_⟩
  · rw [exists_check_eq_ok_iff, exists_check_eq_ok_iff]
    simp only [same_singles.mem_iff]
  · have same_lookup := lookup_eq_of_perm perm succeeds otherSucceeds name
    constructor
    · rw [Arguments.get?, Arguments.get?, same_lookup]
    · rw [Arguments.contains_eq_isSome_lookup, Arguments.contains_eq_isSome_lookup, same_lookup]

end ParamSet

/-- A page number of a query, counted from one, and the first page by default. -/
def pageNumber : Param where
  source := .query
  shape := .scalar .int
  default := some (.int 1)
  rules := [.min (.int 1)]
  optional := false
  wireName := none
  file_of_upload := by simp
  sound := by decide

/-- A tag to search for, which may be left out. -/
def searchTag : Param where
  source := .query
  shape := .scalar .str
  default := none
  rules := []
  optional := true
  wireName := none
  file_of_upload := by simp
  sound := by decide

/-- The parameters of a search. -/
def search : ParamSet := ⟨[("page", pageNumber), ("tag", searchTag)], by simp, by simp⟩

/-- The same parameters declared in the other order. -/
def swappedSearch : ParamSet := ⟨[("tag", searchTag), ("page", pageNumber)], by simp, by simp⟩

/-- A search for the second page gives the same values in either order of its parameters. -/
theorem check_composition_search :
    swappedSearch.entries.Perm search.entries ∧
      (search.check (RequestInputs.empty.setQuery "page" "2").provider).result =
        .ok ⟨[("page", some (.int 2)), ("tag", none)]⟩ ∧
      (swappedSearch.check (RequestInputs.empty.setQuery "page" "2").provider).result =
        .ok ⟨[("tag", none), ("page", some (.int 2))]⟩ ∧
      ∀ name, Arguments.get? ⟨[("tag", none), ("page", some (.int 2))]⟩ name =
          Arguments.get? ⟨[("page", some (.int 2)), ("tag", none)]⟩ name ∧
        Arguments.contains ⟨[("tag", none), ("page", some (.int 2))]⟩ name =
          Arguments.contains ⟨[("page", some (.int 2)), ("tag", none)]⟩ name := by
  have perm : swappedSearch.entries.Perm search.entries := .swap _ _ _
  refine ⟨perm, rfl, rfl, ?_⟩
  have composed := ParamSet.check_composition search
    (RequestInputs.empty.setQuery "page" "2").provider
  exact (composed.2.2.2 swappedSearch perm).2.2 _ _ rfl rfl

end RequestParams
