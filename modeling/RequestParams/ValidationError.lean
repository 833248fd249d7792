import RequestParams.Shape
import RequestParams.Text.Quoted

/-!
# Errors of requests

Why a field of a request is refused. Names are those under which values are looked up.
-/

namespace RequestParams

/-- The failure of one field. -/
inductive ValidationError
  /-- A required parameter is missing. -/
  | missing (source : Source) (name : String)
  /-- A text is no scalar of the declared kind. -/
  | conversion (source : Source) (name : String) (target : Scalar) (raw : String)
  /-- A value of the kind found does not have the declared shape. -/
  | typeMismatch (source : Source) (name : String) (expected : Shape) (found : String)
  /-- A rule refuses the value. -/
  | ruleViolation (source : Source) (name rule violation : String)

namespace ValidationError

/-- The name of the field. -/
def field : ValidationError → String
  | missing _ name | conversion _ name _ _ | typeMismatch _ name _ _ | ruleViolation _ name _ _ =>
    name

/-- The source of the field. -/
def source : ValidationError → Source
  | missing source _ | conversion source _ _ _ | typeMismatch source _ _ _
  | ruleViolation source _ _ _ => source

/-- The constraint that fails: the name of a rule, or one of three others. -/
def constraint : ValidationError → String
  | missing _ _ => "required"
  | conversion _ _ _ _ => "conversion"
  | typeMismatch _ _ _ _ => "type"
  | ruleViolation _ _ rule _ => rule

/-- The beginning of most messages. -/
def location (source : Source) (name : String) : String :=
  "In " ++ source.name ++ ", '" ++ name ++ "' "

/-- The message of a failure. -/
def message : ValidationError → String
  | missing source name =>
    "Required " ++ source.name ++ " parameter, '" ++ name ++ "' not given."
  | conversion source name target raw =>
    location source name ++ "cannot convert " ++ Text.quote raw ++ " to " ++ target.name
  | typeMismatch source name expected found =>
    location source name ++ "does not match declared type " ++ expected.text ++
      " (got " ++ found ++ ")"
  | ruleViolation source name _ violation => location source name ++ violation

end ValidationError

end RequestParams
