import RequestParams.ConfigError

/-!
# Shapes

A shape is the type that a parameter is declared with. Its origins are the kinds of its outermost
alternatives, its first choice is the one that text is converted to.
-/

namespace RequestParams

/-- The scalar kinds. -/
inductive Scalar
  | int
  | str
  | float
  | bool
deriving DecidableEq, Repr

/-- The name of a scalar kind. -/
def Scalar.name : Scalar → String
  | int => "int"
  | str => "str"
  | float => "float"
  | bool => "bool"

/-- The outermost kind of a shape. -/
inductive Origin
  | int
  | float
  | str
  | bool
  | list
  | dict
  | file
  | any
deriving DecidableEq, Repr

/-- The name of an origin. -/
def Origin.name : Origin → String
  | int => "int"
  | float => "float"
  | str => "str"
  | bool => "bool"
  | list => "list"
  | dict => "dict"
  | file => "file"
  | any => "any"

/-- The origin of a scalar kind. -/
def Scalar.origin : Scalar → Origin
  | int => .int
  | str => .str
  | float => .float
  | bool => .bool

/-- The values a parameter accepts. -/
inductive Shape
  /-- A scalar. -/
  | scalar (kind : Scalar)
  /-- A list of such items. -/
  | list (item : Shape)
  /-- A mapping to such values. -/
  | dict (item : Shape)
  /-- Uploaded files. -/
  | file
  /-- Anything. -/
  | any
  /-- One of these. -/
  | union (members : List Shape)

namespace Shape

/-- Texts joined by a bar. -/
def joinBars : List String → String := " | ".intercalate

mutual

/-- The text of a shape in messages. -/
def text : Shape → String
  | scalar kind => kind.name
  | list item => "List(" ++ item.text ++ ")"
  | dict item => "Dict(" ++ item.text ++ ")"
  | file => "File"
  | any => "All"
  | union members => "(" ++ joinBars (texts members) ++ ")"

/-- The texts of the members of a union. -/
def texts : List Shape → List String
  | [] => []
  | member :: rest => member.text :: texts rest

end

mutual

/-- The first defect of a shape below the top: an empty union or a file type. -/
def nestedDefect? : Shape → Option ConfigError
  | scalar _ | any => none
  | file =>
    some (.invalidShape none file.text "file type cannot be nested inside another type")
  | list item | dict item => item.nestedDefect?
  | union members => if members.isEmpty then some .emptyUnion else membersDefect? members

/-- The first defect among the members of a union. -/
def membersDefect? : List Shape → Option ConfigError
  | [] => none
  | member :: rest =>
    match member.nestedDefect? with
    | some defect => some defect
    | none => membersDefect? rest

end

/-- The first defect of a shape: at the top a file type is in place. -/
def defect? : Shape → Option ConfigError
  | file => none
  | shape => shape.nestedDefect?

/-- A list of items, which must be free of defects below the top. -/
def listOf (item : Shape) : Except ConfigError Shape :=
  match item.nestedDefect? with
  | some defect => .error defect
  | none => .ok (list item)

/-- A mapping to values, which must be free of defects below the top. -/
def dictOf (item : Shape) : Except ConfigError Shape :=
  match item.nestedDefect? with
  | some defect => .error defect
  | none => .ok (dict item)

/-- A union of members, which must be free of defects. -/
def unionOf (members : List Shape) : Except ConfigError Shape :=
  match (union members).defect? with
  | some defect => .error defect
  | none => .ok (union members)

mutual

/-- The origins of the outermost alternatives in order, repeated ones included. -/
def alternatives : Shape → List Origin
  | scalar kind => [kind.origin]
  | list _ => [.list]
  | dict _ => [.dict]
  | file => [.file]
  | any => [.any]
  | union members => memberAlternatives members

/-- The origins of the alternatives of the members of a union. -/
def memberAlternatives : List Shape → List Origin
  | [] => []
  | member :: rest => member.alternatives ++ memberAlternatives rest

end

/-- Each element at its first occurrence. -/
def firstOccurrences (origins : List Origin) : List Origin :=
  origins.foldl (fun seen origin => if origin ∈ seen then seen else seen ++ [origin]) []

/-- The origins of a shape in order, each once. -/
def origins (shape : Shape) : List Origin := firstOccurrences shape.alternatives

/-- The shape that text is converted to: the first member of a union, to any depth. -/
def firstChoice : Shape → Shape
  | union (first :: _) => first.firstChoice
  | shape => shape

mutual

/-- Built of scalars, the shape of anything, and unions of those. -/
def isFlat : Shape → Bool
  | scalar _ | any => true
  | union members => areFlat members
  | list _ | dict _ | file => false

/-- All members are flat. -/
def areFlat : List Shape → Bool
  | [] => true
  | member :: rest => member.isFlat && areFlat rest

end

mutual

/-- Whether the file type occurs anywhere. -/
def containsFile : Shape → Bool
  | file => true
  | list item | dict item => item.containsFile
  | union members => anyContainsFile members
  | scalar _ | any => false

/-- Whether the file type occurs in a member. -/
def anyContainsFile : List Shape → Bool
  | [] => false
  | member :: rest => member.containsFile || anyContainsFile rest

end

end Shape

end RequestParams
