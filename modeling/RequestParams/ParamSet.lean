import RequestParams.Param

/-!
# Sets of parameters

The parameters of one handler in the order of their declaration, under names that are not empty and
distinct. Parameters are built as they are declared; the first defect, of a name or of a parameter,
is reported when the set is built.
-/

namespace RequestParams

/-- Named parameters. -/
structure ParamSet where
  /-- The parameters with their names, in order. -/
  entries : List (String × Param)
  /-- No name is empty. -/
  names_nonempty : ∀ entry ∈ entries, entry.1 ≠ ""
  /-- No name occurs twice. -/
  names_nodup : (entries.map Prod.fst).Nodup

namespace ParamSet

/-- The set of no parameters. -/
def empty : ParamSet := ⟨[], by simp, by simp⟩

/-- The names in order. -/
def names (set : ParamSet) : List String := set.entries.map Prod.fst

/-- The number of parameters. -/
def size (set : ParamSet) : Nat := set.entries.length

/-- The parameter of a name. -/
def get? (set : ParamSet) (name : String) : Option Param := set.entries.lookup name

/-- Adds a parameter under a new name. -/
def push (set : ParamSet) (name : String) (p : Param) (nonempty : name ≠ "")
    (fresh : name ∉ set.names) : ParamSet where
  entries := set.entries ++ [(name, p)]
  names_nonempty entry member := by
    rcases List.mem_append.mp member with old | new
    · exact set.names_nonempty entry old
    · rw [List.mem_singleton.mp new]; exact nonempty
  names_nodup := by
    rw [List.map_append, List.nodup_append]
    refine ⟨set.names_nodup, by simp, fun a inside b last => ?_⟩
    simp only [List.map_cons, List.map_nil, List.mem_singleton] at last
    rintro rfl
    exact fresh (last ▸ inside)

/-- Adds declared parameters one by one up to the first defect. -/
def pushAll (set : ParamSet) :
    List (String × Except ConfigError Param) → Except ConfigError ParamSet
  | [] => .ok set
  | (name, param) :: rest =>
    if empty : name = "" then .error .invalidParameterName
    else if known : name ∈ set.names then .error (.duplicateParameter name)
    else
      match param with
      | .error defect => .error defect
      | .ok p => (set.push name p empty known).pushAll rest

/-- Parameters that have been declared and built, or failed to build, in order. -/
structure Builder where
  /-- The names with the parameters or their defects. -/
  declared : List (String × Except ConfigError Param)

namespace Builder

/-- Nothing declared. -/
def empty : Builder := ⟨[]⟩

/-- Declares a parameter that has been built already. -/
def add (b : Builder) (name : String) (p : Param) : Builder :=
  ⟨b.declared ++ [(name, .ok p)]⟩

/-- Declares a parameter, which is built at once. -/
def declare (b : Builder) (name : String) (d : Declaration) : Logged Builder := do
  return ⟨b.declared ++ [(name, ← d.build)]⟩

/-- The set of the declared parameters, or the first defect. -/
def build (b : Builder) : Logged (Except ConfigError ParamSet) :=
  match ParamSet.empty.pushAll b.declared with
  | .error defect => return .error defect
  | .ok set => do
    Logged.report (.setRegistered set.size)
    return .ok set

end Builder

end ParamSet

end RequestParams
