import RequestParams.Source
import RequestParams.Value

/-!
# Providers of request values
-/

namespace RequestParams

/-- Where raw values are looked up. -/
structure Provider where
  /-- The value of a key in a source other than uploads. -/
  lookup : Source → String → Option Value
  /-- The attachments uploaded under a name. -/
  files : String → Option (List Attachment)

end RequestParams
