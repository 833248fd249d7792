import RequestParams.Binary64.Reading
import RequestParams.Logged
import RequestParams.Text.Integer
import RequestParams.Text.Lowercase
import RequestParams.ValidationError
import RequestParams.Value

/-!
# Coercion of text

Text from the path, the query, a form or a header is converted to the scalar that is the first
choice of the declared shape. Other values, and text for other first choices, stay as they are.
-/

namespace RequestParams

/-- The truth value of a text: `true` or `false` in any ASCII case. -/
def bool? (text : String) : Option Bool :=
  if Text.equalsIgnoringAsciiCase text "true" then some true
  else if Text.equalsIgnoringAsciiCase text "false" then some false
  else none

/-- The scalar of a text. -/
def Scalar.read? : Scalar → String → Option Value
  | int, text => (Text.int64? text).map Value.int
  | float, text => (Binary64.ofText? text).map Value.float
  | bool, text => (bool? text).map Value.bool
  | str, text => some (.str text)

/-- The scalar that text is converted to: the first choice, unless that is text itself. -/
def Shape.coercionTarget? (shape : Shape) : Option Scalar :=
  match shape.firstChoice with
  | .scalar .str => none
  | .scalar kind => some kind
  | _ => none

/-- Converts the text of a field, and reports a conversion. -/
def coerceText (text : String) (shape : Shape) (source : Source) (name : String) :
    Logged (Except ValidationError Value) :=
  match shape.coercionTarget? with
  | none => pure (.ok (.str text))
  | some target =>
    match target.read? text with
    | some value => do
      Logged.report (.coerced name target)
      return .ok value
    | none => pure (.error (.conversion source name target text))

/-- Converts the value of a field if it is text that may be converted. -/
def coerce (value : Value) (shape : Shape) (source : Source) (name : String) :
    Logged (Except ValidationError Value) :=
  match source.isTextBearing, value with
  | true, .str text => coerceText text shape source name
  | _, value => pure (.ok value)

end RequestParams
