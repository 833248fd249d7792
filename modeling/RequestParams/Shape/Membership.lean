import RequestParams.Shape
import RequestParams.Value

/-!
# Membership of values in shapes

Booleans are no integers and integers are no floating point numbers; of a mapping only the values
count, not the keys.
-/

namespace RequestParams

/-- Whether a value is a scalar of this kind. -/
def Scalar.admits : Scalar → Value → Bool
  | int, .int _ => true
  | str, .str _ => true
  | float, .float _ => true
  | bool, .bool _ => true
  | _, _ => false

namespace Shape

mutual

/-- Whether a value has this shape. -/
def admits : Shape → Value → Bool
  | any, _ => true
  | scalar kind, value => kind.admits value
  | list item, .list items => items.all fun value => item.admits value
  | dict item, .dict fields => fields.all fun field => item.admits field.2
  | file, .files _ => true
  | union members, value => anyAdmits members value
  | _, _ => false

/-- Whether a member of a union admits a value. -/
def anyAdmits : List Shape → Value → Bool
  | [], _ => false
  | member :: rest, value => member.admits value || anyAdmits rest value

end

end Shape

end RequestParams
