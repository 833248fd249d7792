import RequestParams.Json.Reader
import RequestParams.Provider
import RequestParams.Text.Lowercase
import RequestParams.Value.Conversion

/-!
# Request inputs

A store of raw request values by source. Texts are kept by key, header names in ASCII lower case; a
new text under a key replaces the old one, while attachments under one name add up. A JSON body
supplies the members of its outermost object.
-/

namespace RequestParams

/-- Texts by key, each key once. -/
abbrev Texts := List (String × String)

namespace Texts

/-- Sets the text of a key. -/
def set (texts : Texts) (key text : String) : Texts :=
  (key, text) :: texts.filter (·.1 != key)

/-- The texts of pairs; the last text of a repeated key stands. -/
def ofPairs (pairs : List (String × String)) : Texts :=
  pairs.foldl (fun texts (key, text) => set texts key text) []

/-- The text of a key as a value. -/
def get? (texts : Texts) (key : String) : Option Value := (texts.lookup key).map Value.str

end Texts

/-- Attachments by name, each name once. -/
abbrev Uploads := List (String × List Attachment)

namespace Uploads

/-- Adds an attachment after those of the same name. -/
def add (uploads : Uploads) (name : String) (file : Attachment) : Uploads :=
  (name, (uploads.lookup name).getD [] ++ [file]) :: uploads.filter (·.1 != name)

end Uploads

/-- The raw values of a request. -/
structure RequestInputs where
  /-- Parts of the path. -/
  route : Texts
  /-- Parameters of the query string. -/
  query : Texts
  /-- Fields of a form. -/
  form : Texts
  /-- Headers, their names in ASCII lower case. -/
  headers : Texts
  /-- The JSON body, if there is one. -/
  body : Option Value
  /-- Uploaded files. -/
  uploads : Uploads

namespace RequestInputs

/-- A request without values. -/
def empty : RequestInputs := ⟨[], [], [], [], none, []⟩

/-- Sets a part of the path. -/
def setRoute (r : RequestInputs) (key text : String) : RequestInputs :=
  { r with route := r.route.set key text }

/-- Sets a parameter of the query string. -/
def setQuery (r : RequestInputs) (key text : String) : RequestInputs :=
  { r with query := r.query.set key text }

/-- Sets a field of the form. -/
def setForm (r : RequestInputs) (key text : String) : RequestInputs :=
  { r with form := r.form.set key text }

/-- Sets a header. -/
def setHeader (r : RequestInputs) (name text : String) : RequestInputs :=
  { r with headers := r.headers.set (Text.lowerAscii name) text }

/-- Replaces all parts of the path. -/
def replaceRoute (r : RequestInputs) (pairs : List (String × String)) : RequestInputs :=
  { r with route := .ofPairs pairs }

/-- Replaces all parameters of the query string. -/
def replaceQuery (r : RequestInputs) (pairs : List (String × String)) : RequestInputs :=
  { r with query := .ofPairs pairs }

/-- Replaces all fields of the form. -/
def replaceForm (r : RequestInputs) (pairs : List (String × String)) : RequestInputs :=
  { r with form := .ofPairs pairs }

/-- Replaces all headers. Of names that differ in case only, the last one given stands. -/
def replaceHeaders (r : RequestInputs) (pairs : List (String × String)) : RequestInputs :=
  { r with headers := .ofPairs (pairs.map fun (name, text) => (Text.lowerAscii name, text)) }

/-- Sets the JSON body. -/
def setJson (r : RequestInputs) (body : Json) : RequestInputs :=
  { r with body := some (.ofJson body) }

/-- Sets the JSON body from bytes, if they are a document. -/
def setJsonBytes? (r : RequestInputs) (bytes : List UInt8) : Option RequestInputs :=
  (Json.ofBytes? bytes).map r.setJson

/-- Adds an uploaded file. -/
def addFile (r : RequestInputs) (name : String) (file : Attachment) : RequestInputs :=
  { r with uploads := r.uploads.add name file }

/-- The value of a key in a source. -/
def lookup (r : RequestInputs) : Source → String → Option Value
  | .route, key => r.route.get? key
  | .query, key => r.query.get? key
  | .form, key => r.form.get? key
  | .header, key => r.headers.get? (Text.lowerAscii key)
  | .json, key =>
    match r.body with
    | some (.dict fields) => fields.lookup key
    | _ => none
  | .file, _ => none

/-- The attachments under a name. -/
def files (r : RequestInputs) (name : String) : Option (List Attachment) := r.uploads.lookup name

/-- The inputs as a provider. -/
def provider (r : RequestInputs) : Provider := ⟨r.lookup, r.files⟩

end RequestInputs

end RequestParams
