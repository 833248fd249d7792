import RequestParams.Shape

/-!
# Origins of rules
-/

namespace RequestParams

/-- The origins of the shapes that a rule can be attached to. -/
inductive RuleTypes
  /-- Every shape. -/
  | any
  /-- Shapes with these origins only. -/
  | only (origins : List Origin)
deriving DecidableEq, Repr

namespace RuleTypes

/-- Whether a rule may be attached to a shape with this origin. -/
def accepts : RuleTypes → Origin → Bool
  | any, _ => true
  | only origins, origin => origin ∈ origins

/-- The origins in braces. -/
def text : RuleTypes → String
  | any => "\x7bany\x7d"
  | only origins => "\x7b" ++ ", ".intercalate (origins.map Origin.name) ++ "\x7d"

end RuleTypes

end RequestParams
