import RequestParams.Calendar.Reading

/-!
# Date formats

A `DateFormat` is a format text that could be cut into items. A text fits it if the items read the
whole text and the fields found are consistent with each other.
-/

namespace RequestParams.Calendar

/-- A format of dates and times. -/
structure DateFormat where
  /-- The format as written. -/
  text : String
  /-- Its items. -/
  items : List Item
  /-- The items are those of the text. -/
  items_of_text : Item.ofChars? text.toList = some items

namespace DateFormat

/-- The format of a text, if all its specifiers are known. -/
def ofString? (text : String) : Option DateFormat :=
  match h : Item.ofChars? text.toList with
  | some items => some ⟨text, items, h⟩
  | none => none

/-- Whether a text fits the format. -/
def accepts (format : DateFormat) (s : String) : Bool :=
  (readItems? {} s.toList format.items).any Fields.isConsistent

end DateFormat

end RequestParams.Calendar
