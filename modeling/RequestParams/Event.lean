import RequestParams.Shape

/-!
# Events

What the library reports while parameters are declared and requests are validated.
-/

namespace RequestParams

/-- A reported event. -/
inductive Event
  /-- A parameter has been built. -/
  | paramBuilt (source : Source) (shape : Shape) (rules : Nat) (optional : Bool)
  /-- A set of parameters has been built. -/
  | setRegistered (params : Nat)
  /-- Text has been converted to a scalar. -/
  | coerced (param : String) (target : Scalar)
  /-- A parameter has passed all its tests. -/
  | accepted (param : String) (source : Source)
  /-- An optional parameter has not been given. -/
  | absent (param : String)
  /-- A request has been refused. -/
  | failed (source : Source) (field constraint : String)

namespace Event

/-- Severity of an event. -/
inductive Level
  | debug
  | trace
deriving DecidableEq, Repr

/-- The name of a severity. -/
def Level.name : Level → String
  | debug => "DEBUG"
  | trace => "TRACE"

/-- The severity of an event: steps within one parameter are less severe. -/
def level : Event → Level
  | coerced _ _ | absent _ => .trace
  | _ => .debug

/-- The message of an event. -/
def message : Event → String
  | paramBuilt .. => "Parameter spec built"
  | setRegistered _ => "Parameter set registered"
  | coerced _ _ => "Coerced text parameter"
  | accepted _ _ => "Parameter accepted"
  | absent _ => "Optional parameter absent"
  | failed .. => "Request parameter validation failed"

/-- The text of a truth value. -/
def flag (b : Bool) : String := if b then "true" else "false"

/-- The fields of an event with their values as text. -/
def fields : Event → List (String × String)
  | paramBuilt source shape rules optional =>
    [("source", source.name), ("annotation", shape.text), ("rules", toString rules),
      ("optional", flag optional)]
  | setRegistered params => [("params", toString params)]
  | coerced param target => [("param", param), ("target", target.name)]
  | accepted param source => [("param", param), ("source", source.name)]
  | absent param => [("param", param)]
  | failed source field constraint =>
    [("source", source.name), ("field", field), ("constraint", constraint)]

end Event

end RequestParams
