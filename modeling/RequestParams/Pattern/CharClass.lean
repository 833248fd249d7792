import RequestParams.Text.CaseFold
import RequestParams.Text.Digits
import RequestParams.Text.Property
import RequestParams.Text.Script

/-!
# Character classes

A class is a test on characters. In ASCII mode classes range over the 256 characters that a byte can
stand for, and only classes within ASCII may be used.
-/

namespace RequestParams.Pattern

open Text

/-- A set of characters. -/
abbrev CharClass := Char → Bool

namespace CharClass

/-- The class of nothing. -/
def none : CharClass := fun _ => false

/-- Characters between two, both included. -/
def range (first last : Char) : CharClass := fun c => first ≤ c && c ≤ last

/-- Characters of either class. -/
def union (s t : CharClass) : CharClass := fun c => s c || t c

/-- Characters of both classes. -/
def inter (s t : CharClass) : CharClass := fun c => s c && t c

/-- Characters of the first class only. -/
def diff (s t : CharClass) : CharClass := fun c => s c && !t c

/-- Characters of exactly one class. -/
def symmDiff (s t : CharClass) : CharClass := fun c => s c != t c

/-- Characters outside the class, in ASCII mode among bytes. -/
def complement (ascii : Bool) (s : CharClass) : CharClass :=
  fun c => !s c && (!ascii || c.toNat < 256)

/-- The class with all case variants of its characters, in ASCII mode those of ASCII letters. -/
def folded (ascii : Bool) (s : CharClass) : CharClass :=
  fun c =>
    if ascii then s c || s c.toLower || s c.toUpper else (caseVariants c).any s

/-- Whether no byte beyond ASCII belongs to the class. -/
def isAscii (s : CharClass) : Bool :=
  (List.range 128).all fun n => !s (Char.ofNat (128 + n))

/-- The ASCII characters of words. -/
def asciiWord : CharClass := fun c => c.isAlphanum || c == '_'

/-- The ASCII blanks. -/
def asciiBlank : CharClass := fun c =>
  c == ' ' || c == '\t' || c == '\n' || c == '\x0b' || c == '\x0c' || c == '\r'

/-- Characters of words. -/
def word (ascii : Bool) : CharClass := if ascii then asciiWord else isWord

/-- The class of a shorthand letter in small form. -/
def shorthand? (ascii : Bool) (letter : Char) : Option CharClass :=
  match letter with
  | 'd' => some (if ascii then isDigit else isDecimalDigit)
  | 's' => some (if ascii then asciiBlank else isBlank)
  | 'w' => some (word ascii)
  | _ => .none

/-- The ASCII classes that are named between colons. -/
def named? (name : String) : Option CharClass :=
  match name with
  | "alnum" => some Char.isAlphanum
  | "alpha" => some Char.isAlpha
  | "ascii" => some fun c => c.toNat < 128
  | "blank" => some fun c => c == '\t' || c == ' '
  | "cntrl" => some fun c => c.toNat < 32 || c.toNat == 127
  | "digit" => some isDigit
  | "graph" => some (range '!' '~')
  | "lower" => some Char.isLower
  | "print" => some (range ' ' '~')
  | "punct" => some fun c => range '!' '~' c && !c.isAlphanum
  | "space" => some asciiBlank
  | "upper" => some Char.isUpper
  | "word" => some asciiWord
  | "xdigit" => some fun c => isDigit c || range 'a' 'f' c || range 'A' 'F' c
  | _ => .none

/-- The class of a general category given in small letters without separators. -/
def category? (name : String) : Option CharClass :=
  let oneOf (sets : List CharSet) : Option CharClass := some fun c => sets.any (·.contains c)
  let letters := [Category.uppercaseLetter, Category.lowercaseLetter, Category.titlecaseLetter]
  let others := [Category.modifierLetter, Category.otherLetter]
  let marks := [Category.nonspacingMark, Category.spacingMark, Category.enclosingMark]
  let numbers := [Category.decimalNumber, Category.letterNumber, Category.otherNumber]
  let puncts := [Category.connectorPunctuation, Category.dashPunctuation,
    Category.openPunctuation, Category.closePunctuation, Category.initialPunctuation,
    Category.finalPunctuation, Category.otherPunctuation]
  let symbols := [Category.mathSymbol, Category.currencySymbol, Category.modifierSymbol,
    Category.otherSymbol]
  let spaces := [Category.spaceSeparator, Category.lineSeparator, Category.paragraphSeparator]
  let controls := [Category.control, Category.format, Category.privateUse, Category.unassigned]
  match name with
  | "any" => some fun _ => true
  | "assigned" => some fun c => !Category.unassigned.contains c
  | "ascii" => some fun c => c.toNat < 128
  | "l" | "letter" => oneOf (letters ++ others)
  | "lc" | "casedletter" => oneOf letters
  | "lu" | "uppercaseletter" => oneOf [Category.uppercaseLetter]
  | "ll" | "lowercaseletter" => oneOf [Category.lowercaseLetter]
  | "lt" | "titlecaseletter" => oneOf [Category.titlecaseLetter]
  | "lm" | "modifierletter" => oneOf [Category.modifierLetter]
  | "lo" | "otherletter" => oneOf [Category.otherLetter]
  | "m" | "mark" | "combiningmark" => oneOf marks
  | "mn" | "nonspacingmark" => oneOf [Category.nonspacingMark]
  | "mc" | "spacingmark" => oneOf [Category.spacingMark]
  | "me" | "enclosingmark" => oneOf [Category.enclosingMark]
  | "n" | "number" => oneOf numbers
  | "nd" | "decimalnumber" | "digit" => oneOf [Category.decimalNumber]
  | "nl" | "letternumber" => oneOf [Category.letterNumber]
  | "no" | "othernumber" => oneOf [Category.otherNumber]
  | "p" | "punctuation" | "punct" => oneOf puncts
  | "pc" | "connectorpunctuation" => oneOf [Category.connectorPunctuation]
  | "pd" | "dashpunctuation" => oneOf [Category.dashPunctuation]
  | "ps" | "openpunctuation" => oneOf [Category.openPunctuation]
  | "pe" | "closepunctuation" => oneOf [Category.closePunctuation]
  | "pi" | "initialpunctuation" => oneOf [Category.initialPunctuation]
  | "pf" | "finalpunctuation" => oneOf [Category.finalPunctuation]
  | "po" | "otherpunctuation" => oneOf [Category.otherPunctuation]
  | "s" | "symbol" => oneOf symbols
  | "sm" | "mathsymbol" => oneOf [Category.mathSymbol]
  | "sc" | "currencysymbol" => oneOf [Category.currencySymbol]
  | "sk" | "modifiersymbol" => oneOf [Category.modifierSymbol]
  | "so" | "othersymbol" => oneOf [Category.otherSymbol]
  | "z" | "separator" => oneOf spaces
  | "zs" | "spaceseparator" => oneOf [Category.spaceSeparator]
  | "zl" | "lineseparator" => oneOf [Category.lineSeparator]
  | "zp" | "paragraphseparator" => oneOf [Category.paragraphSeparator]
  | "c" | "other" => oneOf controls
  | "cc" | "control" | "cntrl" => oneOf [Category.control]
  | "cf" | "format" => oneOf [Category.format]
  | "co" | "privateuse" => oneOf [Category.privateUse]
  | "cn" | "unassigned" => oneOf [Category.unassigned]
  | _ => .none

/-- The class of a script given in small letters without separators. -/
def script? (name : String) : Option CharClass :=
  (scripts.find? fun script => script.names.contains name).map fun script => script.chars.contains

/-- A property name in small letters, without separators and a leading `is`. -/
def normalizeName (name : List Char) : String :=
  let stripped := match name with
    | a :: b :: rest => if a.toLower = 'i' ∧ b.toLower = 's' then rest else name
    | _ => name
  let kept := (stripped.filter fun c => c != ' ' && c != '_' && c != '-' && c.toNat < 128).map
    Char.toLower
  if stripped.length < name.length ∧ kept = ['c'] then "isc" else String.ofList kept

/-- The class of a name alone: a property, a category or a script. -/
def ofName? (name : List Char) : Option CharClass :=
  let name := normalizeName name
  let property := if name = "cf" ∨ name = "sc" ∨ name = "lc" then Option.none else property? name
  property.orElse fun _ => (category? name).orElse fun _ => script? name

/-- The class of a property with a value: a category or a script. -/
def ofNameValue? (name value : List Char) : Option CharClass :=
  match normalizeName name with
  | "gc" | "generalcategory" => category? (normalizeName value)
  | "sc" | "script" => script? (normalizeName value)
  | _ => .none

end CharClass

end RequestParams.Pattern
