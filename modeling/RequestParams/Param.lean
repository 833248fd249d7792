import RequestParams.Logged
import RequestParams.Shape.Membership

/-!
# Parameters

A `Declaration` says where a parameter comes from, its shape, its default and its rules. A `Param`
is a declaration without defects. Defects are looked for in the shape, the default, the rules and
the wire name, in this order, and the first one counts.
-/

namespace RequestParams

/-- The settings of a parameter. -/
structure Declaration where
  /-- Where the value comes from. -/
  source : Source
  /-- What the value may be. -/
  shape : Shape
  /-- The value that stands in for a missing one. -/
  default : Option Value
  /-- The rules in the order in which they are tested. -/
  rules : List Rule
  /-- Whether the parameter may be missing. -/
  optional : Bool
  /-- The name of a header where it is not the name of the parameter. -/
  wireName : Option String
  /-- Uploads have the shape of files. -/
  file_of_upload : source = .file → shape = .file

namespace Declaration

/-- A required parameter without default and rules. The shape of an upload is that of files. -/
def ofSource (source : Source) (shape : Shape) : Declaration where
  source := source
  shape := if source = .file then .file else shape
  default := none
  rules := []
  optional := false
  wireName := none
  file_of_upload h := by simp [h]

/-- The defect of the shape: below the top, a file outside of uploads, or a container outside of
JSON bodies. -/
def shapeDefect? (d : Declaration) : Option ConfigError :=
  if d.source = .file then none
  else
    match d.shape.defect? with
    | some defect => some defect
    | none =>
      if d.shape.containsFile then
        some (.invalidShape (some d.source) d.shape.text
          "file type is only allowed for File parameters")
      else if d.source ≠ .json ∧ d.shape.isFlat = false then
        some (.invalidShape (some d.source) d.shape.text
          "must be one of (int, float, str, bool, All) or a union of them")
      else none

/-- The defect of the default: uploads have none, and it must have the shape. -/
def defaultDefect? (d : Declaration) : Option ConfigError :=
  match d.default with
  | none => none
  | some value =>
    if d.source = .file ∨ d.shape.admits value = false then
      some (.invalidDefault value.text d.shape.text)
    else none

/-- The error of attaching a rule to an origin. -/
def ruleDefect? (origin : Origin) (rule : Rule) : Option ConfigError :=
  if rule.types.accepts origin then none
  else some (.invalidRuleShape rule.name origin.name rule.types.text)

/-- The defect of the rules: the first rule that does not apply to the first such origin. -/
def rulesDefect? (d : Declaration) : Option ConfigError :=
  d.shape.origins.findSome? fun origin => d.rules.findSome? (ruleDefect? origin)

/-- The defect of the wire name: only headers have one, and it must not be blank. -/
def wireNameDefect? (d : Declaration) : Option ConfigError :=
  match d.wireName with
  | none => none
  | some name =>
    if d.source = .header then
      if Text.isBlankText name then some .invalidHeaderName else none
    else some (.unsupportedWireName d.source)

/-- The first defect of a declaration. -/
def defect? (d : Declaration) : Option ConfigError :=
  [d.shapeDefect?, d.defaultDefect?, d.rulesDefect?, d.wireNameDefect?].findSome? id

end Declaration

/-- A parameter: a declaration without defects. -/
structure Param extends Declaration where
  /-- No defect was found. -/
  sound : toDeclaration.defect? = none

namespace Param

/-- The name under which the value of a parameter is looked up. -/
def lookupName (p : Param) (name : String) : String :=
  match p.source, p.wireName with
  | .header, some wire => wire
  | _, _ => name

/-- The event of building a parameter. -/
def builtEvent (p : Param) : Event := .paramBuilt p.source p.shape p.rules.length p.optional

end Param

/-- Builds a parameter and reports it. -/
def Declaration.build (d : Declaration) : Logged (Except ConfigError Param) :=
  match h : d.defect? with
  | some defect => return .error defect
  | none => do
    let p : Param := { d with sound := h }
    Logged.report p.builtEvent
    return .ok p

end RequestParams
