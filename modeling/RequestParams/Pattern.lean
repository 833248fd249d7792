import RequestParams.Pattern.Reader

/-!
# Patterns

A `Pattern` is a text that could be read as a regular expression. It is matched anywhere in a text.
-/

namespace RequestParams

/-- A readable regular expression. -/
structure Pattern where
  /-- The pattern as written. -/
  text : String
  /-- Its expression. -/
  expr : Pattern.Expr
  /-- The expression is that of the text. -/
  expr_of_text : Pattern.read? text.toList = some expr

namespace Pattern

/-- The pattern of a text, if the text can be read. -/
def ofString? (text : String) : Option Pattern :=
  match h : read? text.toList with
  | some expr => some ⟨text, expr, h⟩
  | none => none

/-- Whether the pattern matches a part of a text. -/
def matchesIn (pattern : Pattern) (s : String) : Bool := pattern.expr.matchesIn s.toList

end Pattern

end RequestParams
