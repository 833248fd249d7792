/-!
# Uploaded files
-/

namespace RequestParams

/-- An uploaded file as the client sent it. -/
structure Attachment where
  /-- Name of the file, possibly empty. -/
  filename : String
  /-- MIME type. -/
  contentType : String
  /-- Contents. -/
  data : List UInt8
deriving DecidableEq, Repr

namespace Attachment

/-- Size in bytes. -/
def size (file : Attachment) : Nat := file.data.length

/-- The part of a text after its last dot, if it has a dot. -/
def afterLastDot? (s : List Char) : Option (List Char) :=
  if '.' ∈ s then some (s.reverse.takeWhile (· != '.')).reverse else none

/-- The nonempty part of the filename after its last dot. -/
def extension? (file : Attachment) : Option String :=
  match afterLastDot? file.filename.toList with
  | some [] => none
  | some extension => some (String.ofList extension)
  | none => none

end Attachment

end RequestParams
