import RequestParams.Json.Printer
import RequestParams.Text.Blank
import RequestParams.Text.Integer
import RequestParams.Text.Lowercase

/-!
# Configuration

Status and key of the default error body, and whether failures are reported. Settings can be looked
up by variable name; one that is unset keeps its default, as does a status or a key that cannot be
used. The flag is on for `1` and `true` only.
-/

namespace RequestParams

/-- The configuration of a validator. -/
structure Config where
  /-- The status of a failure. -/
  failureStatus : UInt16
  /-- The key of the message in the body of a failure. -/
  errorKey : String
  /-- Whether failures are reported as events. -/
  logFailures : Bool
deriving DecidableEq, Repr

namespace Config

/-- The default configuration. -/
def default : Config := ⟨400, "error", true⟩

/-- The variable of the status. -/
def statusVariable : String := "PARAPET_FAILURE_STATUS"

/-- The variable of the key. -/
def keyVariable : String := "PARAPET_ERROR_KEY"

/-- The variable of the flag. -/
def logVariable : String := "PARAPET_LOG_FAILURES"

/-- The status of a text: a client or server error, with blanks around it. -/
def status? (text : String) : Option UInt16 :=
  (Text.uint16? (Text.trim text.toList)).filter fun n => 400 ≤ n && n < 600

/-- The key of a text: anything that is not blank, as it is. -/
def key? (text : String) : Option String := if Text.isBlankText text then none else some text

/-- The flag of a text. -/
def flag (text : String) : Bool := text == "1" || Text.equalsIgnoringAsciiCase text "true"

/-- The configuration that a lookup of variables gives. -/
def ofLookup (lookup : String → Option String) : Config where
  failureStatus := ((lookup statusVariable).bind status?).getD default.failureStatus
  errorKey := ((lookup keyVariable).bind key?).getD default.errorKey
  logFailures := ((lookup logVariable).map flag).getD default.logFailures

/-- The configuration as a JSON text, its members in the order of the fields. -/
def jsonText (c : Config) : String :=
  String.ofList ("\x7b\"failure_status\":".toList ++ Nat.toDigits 10 c.failureStatus.toNat ++
    ",\"error_key\":".toList ++ Json.stringChars c.errorKey ++
    ",\"log_failures\":".toList ++ (Json.bool c.logFailures).chars ++ ['\x7d'])

end Config

end RequestParams
