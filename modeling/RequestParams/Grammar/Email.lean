/-!
# Email addresses

A local part, an at sign, and a domain of labels joined by dots, all in ASCII.
-/

namespace RequestParams.Grammar

/-- Signs that a local part may hold beside letters and digits. -/
def localSigns : List Char := ".!#$%&'*+/=?^_`\x7b|\x7d~-".toList

/-- Characters of a local part. -/
def isLocalChar (c : Char) : Bool := c.isAlphanum || localSigns.contains c

/-- Characters of a label. -/
def isLabelChar (c : Char) : Bool := c.isAlphanum || c == '-'

/-- A label of a domain: up to 63 characters without a hyphen at either end. -/
def isLabel (s : List Char) : Bool :=
  1 ≤ s.length && s.length ≤ 63 && s.all isLabelChar && s.head? != some '-' &&
    s.getLast? != some '-'

/-- The pieces of a text between the occurrences of a separator. -/
def pieces (separator : Char) : List Char → List (List Char)
  | [] => [[]]
  | c :: rest =>
    if c = separator then [] :: pieces separator rest
    else
      match pieces separator rest with
      | [] => [[c]]
      | piece :: more => (c :: piece) :: more

/-- Whether a text is an email address. `Rule.accepts_regex_emailPattern` has these texts as those
of a pattern. -/
def isEmail (s : String) : Bool :=
  match s.toList.span (· != '@') with
  | (name, _ :: domain) =>
    !name.isEmpty && name.all isLocalChar && (pieces '.' domain).all isLabel
  | (_, []) => false

end RequestParams.Grammar
