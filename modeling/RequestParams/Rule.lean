import RequestParams.Calendar.DateFormat
import RequestParams.Grammar.Email
import RequestParams.Grammar.IsoDatetime
import RequestParams.Grammar.Phone
import RequestParams.Pattern
import RequestParams.Rule.Suffix
import RequestParams.Rule.Types
import RequestParams.Text.Blank
import RequestParams.Value.Conversion

/-!
# Rules

A rule tests a value that is present and has the declared type. It knows the origins it applies to
and the message of a violation. Rules with a parameter that can be unusable are built by functions
that refuse it. An application may bring rules of its own.
-/

namespace RequestParams

/-- A rule on values. -/
inductive Rule
  /-- A text or container of at least this length. -/
  | minLength (n : Nat)
  /-- A text or container of at most this length. -/
  | maxLength (n : Nat)
  /-- A number that is not below a bound. -/
  | min (bound : Numeric)
  /-- A number that is not above a bound. -/
  | max (bound : Numeric)
  /-- One of these values. -/
  | oneOf (choices : List Value) (nonempty : choices ≠ [])
  /-- A text of one or more ASCII digits. -/
  | number
  /-- A text without blanks at its ends. -/
  | strip
  /-- A text that is an ISO 8601 date or date and time. -/
  | isoDatetime
  /-- A text that fits a date format. -/
  | datetime (format : Calendar.DateFormat)
  /-- A text that is an email address. -/
  | email
  /-- A text that is a phone number. -/
  | phoneNumber
  /-- A text in which a pattern matches. -/
  | regex (pattern : Pattern)
  /-- Files whose names end in one of these suffixes. -/
  | fileExtension (suffixes : List String) (nonempty : suffixes ≠ [])
  /-- At most so many files. -/
  | maxFileCount (n : Nat)
  /-- At least so many files. -/
  | minFileCount (n : Nat)
  /-- A rule of the application's own. -/
  | custom (name : String) (types : RuleTypes) (test : Value → Bool) (violation : String)

namespace Rule

/-- The name of a rule, reported as the constraint that fails. -/
def name : Rule → String
  | minLength _ => "MinLength"
  | maxLength _ => "MaxLength"
  | min _ => "Min"
  | max _ => "Max"
  | oneOf _ _ => "In"
  | number => "Number"
  | strip => "Strip"
  | isoDatetime => "IsoDatetime"
  | datetime _ => "Datetime"
  | email => "Email"
  | phoneNumber => "PhoneNumber"
  | regex _ => "Regex"
  | fileExtension _ _ => "FileExtension"
  | maxFileCount _ => "MaxFileCount"
  | minFileCount _ => "MinFileCount"
  | custom name _ _ _ => name

/-- Whether a rule is one of the library's. -/
def isBuiltIn : Rule → Bool
  | custom _ _ _ _ => false
  | _ => true

/-- The origins a rule applies to. -/
def types : Rule → RuleTypes
  | minLength _ | maxLength _ => .only [.str, .list, .dict]
  | min _ | max _ => .only [.int, .float]
  | oneOf _ _ => .any
  | number | strip | isoDatetime | datetime _ | email | phoneNumber | regex _ => .only [.str]
  | fileExtension _ _ | maxFileCount _ | minFileCount _ => .only [.file]
  | custom _ types _ _ => types

/-- Whether a value is one of the choices, numbers compared by value across their kinds. -/
def isOneOf (choices : List Value) (value : Value) : Bool :=
  match value.number? with
  | some n => choices.any fun choice => choice.number?.any fun m => m.compare? n == some .eq
  | none => choices.any fun choice => choice.same value

/-- Whether a file's name ends in one of the suffixes. -/
def hasAnySuffix (suffixes : List String) (file : Attachment) : Bool :=
  suffixes.any fun suffix => hasSuffix file.filename suffix

/-- Whether a value passes a rule. A value without the property that a rule tests does not. -/
def accepts : Rule → Value → Bool
  | minLength n, value => value.length?.any (n ≤ ·)
  | maxLength n, value => value.length?.any (· ≤ n)
  | min bound, value => value.number?.any bound.isAtMost
  | max bound, value => value.number?.any bound.isAtLeast
  | oneOf choices _, value => isOneOf choices value
  | number, value => value.str?.any fun s => Text.isDigits s.toList
  | strip, value => value.str?.any Text.isTrimmed
  | isoDatetime, value => value.str?.any Grammar.isIsoDatetime
  | datetime format, value => value.str?.any format.accepts
  | email, value => value.str?.any Grammar.isEmail
  | phoneNumber, value => value.str?.any Grammar.isPhone
  | regex pattern, value => value.str?.any pattern.matchesIn
  | fileExtension suffixes _, value =>
    value.files?.any fun files => files.all (hasAnySuffix suffixes)
  | maxFileCount n, value => value.files?.any fun files => files.length ≤ n
  | minFileCount n, value => value.files?.any fun files => n ≤ files.length
  | custom _ _ test _, value => test value

/-- The message of a violation, to follow the name of the field. -/
def violation : Rule → String
  | minLength n => "length must be at least " ++ toString n
  | maxLength n => "length must be at most " ++ toString n
  | min bound => "must be at least " ++ bound.text
  | max bound => "must be at most " ++ bound.text
  | oneOf choices _ => "must be one of [" ++ ", ".intercalate (choices.map Value.text) ++ "]"
  | number => "must contain only digits"
  | strip => "must not have leading or trailing whitespace"
  | isoDatetime => "must be an ISO 8601 datetime"
  | datetime format => "must match datetime format " ++ Text.quote format.text
  | email => "must be a valid email"
  | phoneNumber => "must be a valid phone number"
  | regex pattern => "does not match required pattern " ++ Text.quote pattern.text
  | fileExtension suffixes _ =>
    "file extension must be one of [" ++
      ", ".intercalate (suffixes.map fun suffix => String.ofList (suffix.toList.drop 1)) ++ "]"
  | maxFileCount n => "must have at most " ++ toString n ++ " files"
  | minFileCount n => "must have at least " ++ toString n ++ " files"
  | custom _ _ _ violation => violation

/-- A choice among values, of which there must be one. -/
def mkOneOf (choices : List Value) : Except ConfigError Rule :=
  if h : choices ≠ [] then .ok (oneOf choices h)
  else .error (.invalidRuleParameter "In" "choices must not be empty")

/-- A date format, which must not be empty nor hold unknown specifiers. -/
def mkDatetime (format : String) : Except ConfigError Rule :=
  if format.isEmpty then .error (.invalidRuleParameter "Datetime" "format must not be empty")
  else
    match Calendar.DateFormat.ofString? format with
    | some format => .ok (datetime format)
    | none =>
      .error (.invalidRuleParameter "Datetime" ("invalid format string " ++ Text.quote format))

/-- A pattern, which must be readable. What is wrong with one that is not, is left out of the error:
a mark stands in its place. -/
def mkRegex (pattern : String) : Except ConfigError Rule :=
  match Pattern.ofString? pattern with
  | some pattern => .ok (regex pattern)
  | none => .error (.invalidRuleParameter "Regex" "<regex error>")

/-- Extensions, of which there must be one and none may be blank. Leading dots do not count. -/
def mkFileExtension (extensions : List String) : Except ConfigError Rule :=
  let suffixes := extensions.map suffixOf
  if h : suffixes ≠ [] then
    if suffixes.contains "." then
      .error (.invalidRuleParameter "FileExtension" "extensions must not be blank")
    else .ok (fileExtension suffixes h)
  else .error (.invalidRuleParameter "FileExtension" "extensions must not be empty")

end Rule

end RequestParams
