import Mathlib.Data.List.Induction
import RequestParams.ParamSet
import RequestParams.Proofs.Lookup
import RequestParams.Proofs.Param.Legality

/-!
# The first defect of a set

Parameters are declared one by one, and each is built as it is declared; names are looked at only
when the set is built. The main theorem says that a set is built exactly if no declaration has a
defect, and then holds what was declared. Otherwise the error is that of the first declaration with
a defect, where a missing name comes before a repeated one, and both before the defect of the
parameter.
-/

namespace RequestParams

namespace ParamSet

namespace Builder

/-- A call that declares a parameter. -/
inductive Operation
  /-- Declares a parameter by its settings. -/
  | declare (name : String) (d : Declaration)
  /-- Declares a parameter that has been built already. -/
  | add (name : String) (p : Param)

namespace Operation

/-- The name under which the parameter is declared. -/
def name : Operation → String
  | declare name _ | add name _ => name

/-- The settings that are declared. -/
def declaration : Operation → Declaration
  | declare _ d => d
  | add _ p => p.toDeclaration

/-- The parameter, or its defect. -/
def outcome : Operation → Except ConfigError Param
  | declare _ d => d.build.result
  | add _ p => .ok p

/-- The builder after the call. -/
def apply (b : Builder) : Operation → Logged Builder
  | declare name d => b.declare name d
  | add name p => return b.add name p

/-- The name with the parameter or its defect, as a builder keeps them. -/
def entry (op : Operation) : String × Except ConfigError Param := (op.name, op.outcome)

end Operation

/-- The builder after a sequence of calls. -/
def perform (b : Builder) : List Operation → Logged Builder
  | [] => return b
  | op :: rest => do (← op.apply b).perform rest

/-- The set of the parameters declared by a sequence of calls, or an error. -/
def ofOperations (ops : List Operation) : Logged (Except ConfigError ParamSet) := do
  (← empty.perform ops).build

/-- No declaration has a defect: names are not empty and distinct, and parameters are built. -/
structure Legal (ops : List Operation) : Prop where
  named : ∀ op ∈ ops, op.name ≠ ""
  distinct : (ops.map Operation.name).Nodup
  built : ∀ op ∈ ops, ∃ p, op.outcome = .ok p

/-- The defect of a declaration after earlier ones. -/
inductive Fault (earlier : List Operation) (op : Operation) : ConfigError → Prop
  /-- The name is empty. -/
  | unnamed (unnamed : op.name = "") : Fault earlier op .invalidParameterName
  /-- The name is that of an earlier declaration. -/
  | repeated (named : op.name ≠ "") (known : op.name ∈ earlier.map Operation.name) :
      Fault earlier op (.duplicateParameter op.name)
  /-- The parameter is not built. -/
  | refused {e : ConfigError} (named : op.name ≠ "")
      (fresh : op.name ∉ earlier.map Operation.name) (refused : op.outcome = .error e) :
      Fault earlier op e

/-- The set holds the declared parameters under their names, in order. -/
def Holds (set : ParamSet) (ops : List Operation) : Prop :=
  set.entries.map (fun entry => (entry.1, entry.2.toDeclaration)) =
    ops.map fun op => (op.name, op.declaration)

/-! ## What a builder keeps -/

theorem Operation.declared_apply (b : Builder) (op : Operation) :
    (op.apply b).result.declared = b.declared ++ [op.entry] := by
  cases op <;> rfl

theorem declared_perform (b : Builder) (ops : List Operation) :
    (b.perform ops).result.declared = b.declared ++ ops.map Operation.entry := by
  induction ops generalizing b with
  | nil => simp [perform]
  | cons op ops induction =>
      rw [perform, Logged.result_bind, induction, Operation.declared_apply, List.map_cons,
        List.append_assoc, List.singleton_append]

theorem result_build (b : Builder) : b.build.result = ParamSet.empty.pushAll b.declared := by
  unfold build
  split <;> simp_all

theorem result_ofOperations (ops : List Operation) :
    (ofOperations ops).result = ParamSet.empty.pushAll (ops.map Operation.entry) := by
  rw [ofOperations, Logged.result_bind, result_build, declared_perform]
  rfl

/-- A parameter is built with the settings that are declared. -/
theorem Operation.toDeclaration_of_outcome {op : Operation} {p : Param}
    (built : op.outcome = .ok p) : p.toDeclaration = op.declaration := by
  cases op with
  | declare name d => exact ((d.build_eq_ok_iff p).mp built).2
  | add name q =>
      obtain rfl := Except.ok.inj built
      rfl

/-! ## Legal declarations one by one -/

theorem legal_nil : Legal [] := ⟨nofun, List.nodup_nil, nofun⟩

theorem legal_concat_iff (ops : List Operation) (op : Operation) :
    Legal (ops ++ [op]) ↔
      Legal ops ∧ op.name ≠ "" ∧ op.name ∉ ops.map Operation.name ∧
        ∃ p, op.outcome = .ok p := by
  have distinct_iff : ((ops ++ [op]).map Operation.name).Nodup ↔
      (ops.map Operation.name).Nodup ∧ op.name ∉ ops.map Operation.name := by
    rw [List.map_append, List.map_singleton, (List.perm_append_singleton _ _).nodup_iff,
      List.nodup_cons, and_comm]
  constructor
  · intro legal
    obtain ⟨distinct, fresh⟩ := distinct_iff.mp legal.distinct
    obtain ⟨named, last_named⟩ := List.forall_mem_append.mp legal.named
    obtain ⟨built, last_built⟩ := List.forall_mem_append.mp legal.built
    exact ⟨⟨named, distinct, built⟩, last_named op (List.mem_singleton_self op), fresh,
      last_built op (List.mem_singleton_self op)⟩
  · rintro ⟨legal, last_named, fresh, last_built⟩
    exact ⟨List.forall_mem_append.mpr ⟨legal.named, List.forall_mem_singleton.mpr last_named⟩,
      distinct_iff.mpr ⟨legal.distinct, fresh⟩,
      List.forall_mem_append.mpr ⟨legal.built, List.forall_mem_singleton.mpr last_built⟩⟩

/-- After legal declarations the next one has a defect or is legal too. -/
theorem exists_fault_or_legal {earlier : List Operation} (legal : Legal earlier)
    (op : Operation) : (∃ e, Fault earlier op e) ∨ Legal (earlier ++ [op]) := by
  by_cases unnamed : op.name = ""
  · exact .inl ⟨_, .unnamed unnamed⟩
  · by_cases known : op.name ∈ earlier.map Operation.name
    · exact .inl ⟨_, .repeated unnamed known⟩
    · cases outcome_eq : op.outcome with
      | error e => exact .inl ⟨e, .refused unnamed known outcome_eq⟩
      | ok p =>
          exact .inr ((legal_concat_iff earlier op).mpr ⟨legal, unnamed, known, p, outcome_eq⟩)

/-- Declarations are legal or there is a first one with a defect. -/
theorem legal_or_exists_fault (ops : List Operation) :
    Legal ops ∨ ∃ before op after e, ops = before ++ op :: after ∧ Legal before ∧
      Fault before op e := by
  -- From the end: whether the last declaration has a defect depends on all before it.
  induction ops using List.reverseRecOn with
  | nil => exact .inl legal_nil
  | append_singleton ops op induction =>
      rcases induction with legal | ⟨before, first, after, e, rfl, legal, fault⟩
      · rcases exists_fault_or_legal legal op with ⟨e, fault⟩ | legal_concat
        · exact .inr ⟨ops, op, [], e, rfl, legal, fault⟩
        · exact .inl legal_concat
      · exact .inr ⟨before, first, after ++ [op], e, by simp, legal, fault⟩

/-! ## The run of the builder -/

theorem Holds.names_eq {set : ParamSet} {ops : List Operation} (holds : Holds set ops) :
    set.names = ops.map Operation.name := by
  have names_eq := congrArg (List.map Prod.fst) holds
  rw [List.map_map, List.map_map] at names_eq
  exact names_eq

theorem Holds.push {set : ParamSet} {ops : List Operation} (holds : Holds set ops)
    {op : Operation} {p : Param} (built : op.outcome = .ok p) (named : op.name ≠ "")
    (fresh : op.name ∉ set.names) : Holds (set.push op.name p named fresh) (ops ++ [op]) := by
  unfold Holds at holds ⊢
  rw [ParamSet.push, List.map_append, List.map_append, holds, List.map_singleton,
    List.map_singleton, Operation.toDeclaration_of_outcome built]

theorem pushAll_of_fault {set : ParamSet} {earlier : List Operation} (holds : Holds set earlier)
    {op : Operation} {e : ConfigError} (fault : Fault earlier op e)
    (rest : List (String × Except ConfigError Param)) :
    set.pushAll (op.entry :: rest) = .error e := by
  rw [Operation.entry, pushAll]
  cases fault with
  | unnamed unnamed => rw [dif_pos unnamed]
  | repeated named known => rw [dif_neg named, dif_pos (holds.names_eq ▸ known)]
  | refused named fresh refused =>
      rw [dif_neg named, dif_neg (holds.names_eq ▸ fresh), refused]

/-- Legal declarations leave a set that holds them, to which the rest is added. -/
theorem exists_pushAll_eq {ops : List Operation} (legal : Legal ops) :
    ∃ set : ParamSet, Holds set ops ∧ ∀ rest,
      ParamSet.empty.pushAll (ops.map Operation.entry ++ rest) = set.pushAll rest := by
  induction ops using List.reverseRecOn with
  | nil => exact ⟨ParamSet.empty, rfl, fun rest => rfl⟩
  | append_singleton ops op induction =>
      obtain ⟨legal, named, fresh, p, built⟩ := (legal_concat_iff ops op).mp legal
      obtain ⟨set, holds, run⟩ := induction legal
      have fresh_in_set : op.name ∉ set.names := holds.names_eq ▸ fresh
      refine ⟨set.push op.name p named fresh_in_set, holds.push built named fresh_in_set,
        fun rest => ?_⟩
      rw [List.map_append, List.append_assoc, run, List.map_singleton, List.singleton_append,
        Operation.entry, pushAll, dif_neg named, dif_neg fresh_in_set, built]

theorem exists_build_of_legal {ops : List Operation} (legal : Legal ops) :
    ∃ set, Holds set ops ∧ (ofOperations ops).result = .ok set := by
  obtain ⟨set, holds, run⟩ := exists_pushAll_eq legal
  refine ⟨set, holds, ?_⟩
  rw [result_ofOperations, ← List.append_nil (ops.map Operation.entry), run, pushAll]

theorem build_of_fault {before after : List Operation} {op : Operation} {e : ConfigError}
    (legal : Legal before) (fault : Fault before op e) :
    (ofOperations (before ++ op :: after)).result = .error e := by
  obtain ⟨set, holds, run⟩ := exists_pushAll_eq legal
  rw [result_ofOperations, List.map_append, run, List.map_cons]
  exact pushAll_of_fault holds fault _

/-- A set that is built has legal declarations and holds them. -/
theorem legal_and_holds_of_build {ops : List Operation} {set : ParamSet}
    (built : (ofOperations ops).result = .ok set) : Legal ops ∧ Holds set ops := by
  rcases legal_or_exists_fault ops with legal | ⟨before, op, after, e, rfl, legal, fault⟩
  · obtain ⟨legal_set, holds, legal_built⟩ := exists_build_of_legal legal
    obtain rfl := Except.ok.inj (legal_built.symm.trans built)
    exact ⟨legal, holds⟩
  · rw [build_of_fault legal fault] at built
    cases built

/-- The error of a set is the defect of the first declaration that has one. -/
theorem exists_firstFault_of_build {ops : List Operation} {e : ConfigError}
    (failed : (ofOperations ops).result = .error e) :
    ∃ before op after, ops = before ++ op :: after ∧ Legal before ∧ Fault before op e := by
  rcases legal_or_exists_fault ops with legal | ⟨before, op, after, first, rfl, legal, fault⟩
  · obtain ⟨set, -, built⟩ := exists_build_of_legal legal
    rw [built] at failed
    cases failed
  · obtain rfl := Except.error.inj ((build_of_fault legal fault).symm.trans failed)
    exact ⟨before, op, after, rfl, legal, fault⟩

/-! ## Parameters by name -/

/-- A set that holds declarations finds under a name what is declared under it. -/
theorem Holds.map_get? {set : ParamSet} {ops : List Operation} (holds : Holds set ops)
    (name : String) :
    (set.get? name).map Param.toDeclaration =
      (ops.map fun op => (op.name, op.declaration)).lookup name := by
  rw [← holds]
  exact (lookup_map (fun _ p => p.toDeclaration) set.entries name).symm

theorem Holds.exists_get?_eq {set : ParamSet} {ops : List Operation} (holds : Holds set ops)
    (legal : Legal ops) {op : Operation} (op_mem : op ∈ ops) :
    ∃ p, set.get? op.name = some p ∧ p.toDeclaration = op.declaration := by
  have distinct : ((ops.map fun op => (op.name, op.declaration)).map Prod.fst).Nodup := by
    rw [List.map_map]
    exact legal.distinct
  have found := lookup_of_mem distinct (List.mem_map_of_mem op_mem)
  rw [← holds.map_get?, Option.map_eq_some_iff] at found
  exact found

theorem Holds.get?_eq_none {set : ParamSet} {ops : List Operation} (holds : Holds set ops)
    {name : String} (undeclared : name ∉ ops.map Operation.name) : set.get? name = none := by
  rw [← Option.map_eq_none_iff (f := Param.toDeclaration), holds.map_get?,
    Option.eq_none_iff_forall_ne_some]
  intro d found
  obtain ⟨op, op_mem, pair_eq⟩ := List.mem_map.mp (mem_of_lookup found)
  exact undeclared (List.mem_map.mpr ⟨op, op_mem, congrArg Prod.fst pair_eq⟩)

end Builder

open Builder

/-- A set is built exactly if no declaration has a defect. It then holds what was declared, in
order, and gives it back by name. Otherwise the error is the defect of the first declaration with
one. -/
theorem build_reports_first_defect (ops : List Operation) :
    ((∃ set, (ofOperations ops).result = .ok set) ↔ Legal ops) ∧
    (∀ set, (ofOperations ops).result = .ok set →
      set.entries.map (fun entry => (entry.1, entry.2.toDeclaration)) =
          ops.map (fun op => (op.name, op.declaration)) ∧
        (∀ op ∈ ops, ∃ p, set.get? op.name = some p ∧ p.toDeclaration = op.declaration) ∧
        ∀ name, name ∉ ops.map Operation.name → set.get? name = none) ∧
    ∀ e, (ofOperations ops).result = .error e ↔
      ∃ before op after, ops = before ++ op :: after ∧ Legal before ∧ Fault before op e := by
  refine ⟨⟨?_, ?_⟩, ?_, fun e => ⟨exists_firstFault_of_build, ?_⟩⟩
  · rintro ⟨set, built⟩
    exact (legal_and_holds_of_build built).1
  · intro legal
    obtain ⟨set, -, built⟩ := exists_build_of_legal legal
    exact ⟨set, built⟩
  · intro set built
    obtain ⟨legal, holds⟩ := legal_and_holds_of_build built
    exact ⟨holds, fun op op_mem => holds.exists_get?_eq legal op_mem,
      fun name undeclared => holds.get?_eq_none undeclared⟩
  · rintro ⟨before, op, after, rfl, legal, fault⟩
    exact build_of_fault legal fault

/-- The second declaration repeats a name, which comes before the empty union of its shape and
before the missing name behind it. -/
example :
    (ofOperations [.declare "page" (Declaration.ofSource .query (.scalar .int)),
      .declare "page" (Declaration.ofSource .query (.union [])),
      .declare "" (Declaration.ofSource .query .any)]).result =
      .error (.duplicateParameter "page") := rfl

end ParamSet

end RequestParams
