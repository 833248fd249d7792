import RequestParams.Arguments
import RequestParams.Coercion
import RequestParams.ParamSet
import RequestParams.Provider

/-!
# Validation of requests

Each parameter is resolved by itself: its raw value is looked up, coerced, compared with the
declared shape, and tested by the rules. A default stands in for a missing value and is tested by
the rules only. Parameters are resolved in the order of their declaration up to the first failure.
-/

namespace RequestParams

/-- An upload, unless there is none or a single attachment without a name. -/
def uploadValue? : Option (List Attachment) → Option Value
  | none | some [] => none
  | some [file] => if file.filename = "" then none else some (.files [file])
  | some files => some (.files files)

/-- A looked-up value other than null. -/
def presentValue? : Option Value → Option Value
  | some .null => none
  | value => value

/-- The first rule that refuses a value. Rules after it are not tested. -/
def firstRefusal? (value : Value) : List Rule → Logged (Option Rule)
  | [] => return none
  | rule :: rest => do
    if ← rule.test value then firstRefusal? value rest else return some rule

namespace Param

/-- The raw value of a parameter. -/
def rawValue? (p : Param) (name : String) (provider : Provider) : Option Value :=
  if p.source = .file then uploadValue? (provider.files name)
  else presentValue? (provider.lookup p.source (p.lookupName name))

/-- Compares a value with the declared shape. Uploads are not compared. -/
def checkShape (p : Param) (name : String) (value : Value) : Except ValidationError Value :=
  if p.source = .file ∨ p.shape.admits value = true then .ok value
  else .error (.typeMismatch p.source (p.lookupName name) p.shape value.kindName)

/-- Tests a value by the rules in order, and reports that it is accepted. -/
def checkRules (p : Param) (name : String) (value : Value) :
    Logged (Except ValidationError (Option Value)) := do
  match ← firstRefusal? value p.rules with
  | some rule =>
    return .error (.ruleViolation p.source (p.lookupName name) rule.name rule.violation)
  | none =>
    Logged.report (.accepted name p.source)
    return .ok (some value)

/-- Resolves a raw value that was given. -/
def resolveGiven (p : Param) (name : String) (raw : Value) :
    Logged (Except ValidationError (Option Value)) := do
  match ← coerce raw p.shape p.source (p.lookupName name) with
  | .error e => return .error e
  | .ok value =>
    match p.checkShape name value with
    | .error e => return .error e
    | .ok value => p.checkRules name value

/-- Resolves a parameter that was not given. -/
def resolveMissing (p : Param) (name : String) :
    Logged (Except ValidationError (Option Value)) :=
  match p.default with
  | some value => p.checkRules name value
  | none =>
    if p.optional then do
      Logged.report (.absent name)
      return .ok none
    else return .error (.missing p.source (p.lookupName name))

/-- Resolves a parameter. -/
def resolve (p : Param) (name : String) (provider : Provider) :
    Logged (Except ValidationError (Option Value)) :=
  match p.rawValue? name provider with
  | some raw => p.resolveGiven name raw
  | none => p.resolveMissing name

end Param

/-- Resolves parameters in order up to the first failure. -/
def resolveAll (provider : Provider) :
    List (String × Param) → Logged (Except ValidationError (List (String × Option Value)))
  | [] => pure (.ok [])
  | (name, p) :: rest => do
    match ← p.resolve name provider with
    | .error e => return .error e
    | .ok value =>
      match ← resolveAll provider rest with
      | .error e => return .error e
      | .ok values => return .ok ((name, value) :: values)

/-- The arguments of a request, or its first failure. -/
def ParamSet.check (set : ParamSet) (provider : Provider) :
    Logged (Except ValidationError Arguments) := do
  return (← resolveAll provider set.entries).map Arguments.mk

end RequestParams
