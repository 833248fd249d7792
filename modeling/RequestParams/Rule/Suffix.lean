import RequestParams.Text.Lowercase

/-!
# Filename suffixes

Allowed extensions are kept as suffixes in lower case: a dot and the extension without the dots it
may have been given with.
-/

namespace RequestParams

/-- The suffix of an extension. -/
def suffixOf (extension : String) : String :=
  "." ++ Text.lower (String.ofList (extension.toList.dropWhile (· == '.')))

/-- Whether a filename ends in a suffix, whatever its case. -/
def hasSuffix (filename suffix : String) : Bool :=
  suffix.toList.isSuffixOf (Text.lower filename).toList

end RequestParams
