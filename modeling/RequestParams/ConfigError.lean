import RequestParams.Source

/-!
# Errors of declarations

Mistakes in the declaration of parameters. They are reported when parameters are registered and
never reach a client.
-/

namespace RequestParams

/-- Why a declaration is refused. -/
inductive ConfigError
  /-- The shape is not acceptable, for one source or for all. -/
  | invalidShape (source : Option Source) (shape reason : String)
  /-- The default does not have the shape. -/
  | invalidDefault (default shape : String)
  /-- The rule does not apply to an origin of the shape. -/
  | invalidRuleShape (rule origin allowed : String)
  /-- The rule has an unusable parameter. -/
  | invalidRuleParameter (rule reason : String)
  /-- The wire name of a header is blank. -/
  | invalidHeaderName
  /-- A wire name is given for a source that has none. -/
  | unsupportedWireName (source : Source)
  /-- A union has no member. -/
  | emptyUnion
  /-- A name is declared twice. -/
  | duplicateParameter (name : String)
  /-- A name is empty. -/
  | invalidParameterName
deriving DecidableEq, Repr

namespace ConfigError

/-- The name of the source concerned, or `parameter` for all of them. -/
def sourceLabel : Option Source → String
  | some source => source.name
  | none => "parameter"

/-- The message of an error. -/
def message : ConfigError → String
  | invalidShape source shape reason =>
    "\"annotation\" is invalid for " ++ sourceLabel source ++ ": " ++ shape ++
      " (" ++ reason ++ ")"
  | invalidDefault default shape =>
    "\"default\" " ++ default ++ " is not matched with \"annotation\" " ++ shape
  | invalidRuleShape rule origin allowed =>
    "Rule \"" ++ rule ++ "\" is invalid for " ++ origin ++
      ". This rule's annotation must be in " ++ allowed
  | invalidRuleParameter rule reason =>
    "Rule \"" ++ rule ++ "\" has an invalid parameter: " ++ reason
  | invalidHeaderName => "\"header_name\" must be a non-empty string"
  | unsupportedWireName source =>
    source.name ++ " parameters do not support an explicit wire name"
  | emptyUnion => "union annotation must have at least one member"
  | duplicateParameter name => "parameter '" ++ name ++ "' is declared more than once"
  | invalidParameterName => "parameter name must not be empty"

end ConfigError

end RequestParams
