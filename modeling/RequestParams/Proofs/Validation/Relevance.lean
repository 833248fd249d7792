import RequestParams.Proofs.Validation.Composition
import RequestParams.Proofs.Validation.Outcome

/-!
# Inputs that matter

A parameter asks its provider one question: for the files under its own name if it is an upload, for
the value under its lookup name in its source if it is not. Parameters after the first failure ask
nothing. Two providers that answer alike so far are therefore not told apart by a check, whatever
else they hold.
-/

namespace RequestParams

/-- A computation goes on from a result alone. -/
theorem Logged.bind_congr_result {α β : Type} {a : Logged α} {f g : α → Logged β}
    (same : f a.result = g a.result) : a >>= f = a >>= g := by
  simp only [bind, andThen, same]

variable {provider other : Provider}

namespace Param

variable {p : Param} {name : String}

/-- The providers answer the parameter alike. -/
def SameInput (p : Param) (name : String) (provider other : Provider) : Prop :=
  if p.source = .file then other.files name = provider.files name
  else other.lookup p.source (p.lookupName name) = provider.lookup p.source (p.lookupName name)

theorem rawValue?_eq_of_sameInput (same : p.SameInput name provider other) :
    p.rawValue? name other = p.rawValue? name provider := by
  unfold SameInput at same
  unfold rawValue?
  split at same
  · rename_i upload
    rw [if_pos upload, if_pos upload, same]
  · rename_i not_upload
    rw [if_neg not_upload, if_neg not_upload, same]

theorem resolve_eq_of_sameInput (same : p.SameInput name provider other) :
    p.resolve name other = p.resolve name provider := by
  rw [resolve, resolve, rawValue?_eq_of_sameInput same]

end Param

/-- The providers answer alike each parameter that no failing one precedes. -/
def AgreeUpToFailure (provider other : Provider) (entries : List (String × Param)) : Prop :=
  ∀ before name p after, entries = before ++ (name, p) :: after →
    (∀ entry ∈ before, ∃ argument, entry.2.Outcome entry.1 provider (.ok argument)) →
      p.SameInput name provider other

namespace AgreeUpToFailure

variable {name : String} {p : Param} {rest : List (String × Param)}

theorem head (agree : AgreeUpToFailure provider other ((name, p) :: rest)) :
    p.SameInput name provider other :=
  agree [] name p rest rfl (by simp)

theorem tail (agree : AgreeUpToFailure provider other ((name, p) :: rest))
    {argument : Option Value} (passes : p.Outcome name provider (.ok argument)) :
    AgreeUpToFailure provider other rest := by
  intro before later q after split before_pass
  refine agree ((name, p) :: before) later q after (by rw [split, List.cons_append]) ?_
  exact List.forall_mem_cons.mpr ⟨⟨argument, passes⟩, before_pass⟩

end AgreeUpToFailure

theorem resolveAll_eq_of_agree {entries : List (String × Param)}
    (agree : AgreeUpToFailure provider other entries) :
    resolveAll other entries = resolveAll provider entries := by
  induction entries with
  | nil => rfl
  | cons entry rest induction =>
      obtain ⟨name, p⟩ := entry
      rw [resolveAll, resolveAll, Param.resolve_eq_of_sameInput agree.head]
      apply Logged.bind_congr_result
      -- Only a parameter that passes leads on to the others, which need the agreement on them.
      cases resolved : (p.resolve name provider).result with
      | error e => rfl
      | ok argument =>
          have passes := (p.resolve_result_iff name provider _).mp resolved
          simp only [induction (agree.tail passes)]

/-- Providers that answer the parameters of a set alike, up to and including the first one that
fails, are checked with the same result, the same events and the same tests of rules. -/
theorem ParamSet.check_eq_of_agree (set : ParamSet) (provider other : Provider)
    (agree : AgreeUpToFailure provider other set.entries) :
    set.check other = set.check provider := by
  rw [check, check, resolveAll_eq_of_agree agree]

/-- A mark by which a request can be traced, in a header of another name. -/
def traceMark : Param :=
  { Declaration.ofSource .header (.scalar .str) with
    wireName := some "X-Trace"
    sound := by decide }

/-- A search that can be traced. -/
def tracedSearch : ParamSet :=
  ⟨[("trace", traceMark), ("page", pageNumber), ("tag", searchTag)], by simp, by simp⟩

/-- A traced request for the page `0` with a tag. -/
def taggedFirstPage : RequestInputs :=
  ((RequestInputs.empty.setHeader "X-Trace" "7f").setQuery "page" "0").setQuery "tag" "a"

/-- A request for the page `0` that is traced alike, without a tag, and with headers and a body that
nobody asks for: one of the headers is named as the parameter is. -/
def untaggedFirstPage : RequestInputs :=
  ((((RequestInputs.empty.setHeader "x-trace" "7f").setHeader "trace" "80").setHeader
    "page" "2").setQuery "page" "0").setJson (.object [("tag", .null)])

/-- The mark is looked for under its name in the request, and the page `0` is refused, so that the
tag is not asked for: the two requests are told apart in nothing. -/
theorem check_eq_of_agree_search :
    AgreeUpToFailure taggedFirstPage.provider untaggedFirstPage.provider tracedSearch.entries ∧
      taggedFirstPage.lookup .header "trace" ≠ untaggedFirstPage.lookup .header "trace" ∧
      taggedFirstPage.lookup .query "tag" ≠ untaggedFirstPage.lookup .query "tag" ∧
      (tracedSearch.check taggedFirstPage.provider).result =
        .error (.ruleViolation .query "page" "Min" "must be at least 1") ∧
      tracedSearch.check untaggedFirstPage.provider =
        tracedSearch.check taggedFirstPage.provider := by
  have agree : AgreeUpToFailure taggedFirstPage.provider untaggedFirstPage.provider
      tracedSearch.entries := by
    intro before name p after split before_pass
    match before with
    | [] =>
        obtain ⟨first, -⟩ := List.cons.inj split
        obtain ⟨rfl, rfl⟩ := Prod.mk.inj first
        rfl
    | [_] =>
        obtain ⟨-, split⟩ := List.cons.inj split
        obtain ⟨second, -⟩ := List.cons.inj split
        obtain ⟨rfl, rfl⟩ := Prod.mk.inj second
        rfl
    | _ :: page :: _ =>
        obtain ⟨-, split⟩ := List.cons.inj split
        obtain ⟨rfl, -⟩ := List.cons.inj split
        obtain ⟨argument, passes⟩ :=
          before_pass _ (List.mem_cons_of_mem _ List.mem_cons_self)
        have refused : (pageNumber.resolve "page" taggedFirstPage.provider).result =
            .error (.ruleViolation .query "page" "Min" "must be at least 1") := rfl
        rw [(pageNumber.resolve_result_iff "page" _ _).mpr passes] at refused
        cases refused
  have trace_told : taggedFirstPage.lookup .header "trace" = none := rfl
  have other_trace_told : untaggedFirstPage.lookup .header "trace" = some (.str "80") := rfl
  have tag_supplied : taggedFirstPage.lookup .query "tag" = some (.str "a") := rfl
  have tag_missing : untaggedFirstPage.lookup .query "tag" = none := rfl
  refine ⟨agree, ?_, ?_, rfl, ParamSet.check_eq_of_agree tracedSearch _ _ agree⟩
  · rw [trace_told, other_trace_told]
    exact (Option.some_ne_none _).symm
  · rw [tag_supplied, tag_missing]
    exact Option.some_ne_none _

end RequestParams
