import RequestParams.Config
import RequestParams.Validation

/-!
# Validators

A validator checks requests and renders failures: by default as an object with one member, the
message under the configured key, or by a formatter of its own.
-/

namespace RequestParams

/-- A rendered failure. -/
structure Response where
  /-- The message of the failure. -/
  message : String
  /-- The status. -/
  status : UInt16
  /-- The body. -/
  body : Json

/-- The body as it is sent. -/
def Response.text (r : Response) : String := r.body.compact

/-- The bytes of the body as it is sent, in UTF-8. -/
def Response.bytes (r : Response) : List UInt8 := r.text.toUTF8.data.toList

/-- A configuration and possibly a formatter of failures. -/
structure Validator where
  /-- The configuration. -/
  config : Config
  /-- Body and status of a message, where they are not the default ones. -/
  formatter : Option (String → Json × UInt16)

namespace Validator

/-- The default body and status of a message. -/
def defaultBody (c : Config) (message : String) : Json × UInt16 :=
  (.object [(c.errorKey, .string message)], c.failureStatus)

/-- Renders a failure. -/
def formatError (v : Validator) (e : ValidationError) : Response :=
  let (body, status) := v.formatter.getD (defaultBody v.config) e.message
  ⟨e.message, status, body⟩

/-- The event of a failure. -/
def failedEvent (e : ValidationError) : Event := .failed e.source e.field e.constraint

/-- The arguments of a request, or its rendered failure, which is reported if failures are. -/
def validate (v : Validator) (set : ParamSet) (provider : Provider) :
    Logged (Except Response Arguments) := do
  match ← set.check provider with
  | .ok args => return .ok args
  | .error e =>
    if v.config.logFailures then Logged.report (failedEvent e)
    return .error (v.formatError e)

/-- Hands the arguments of a valid request to a handler, whose reports follow those of the check. -/
def handleLogged {α : Type} (v : Validator) (set : ParamSet) (provider : Provider)
    (handler : Arguments → Logged α) : Logged (Except Response α) := do
  match ← v.validate set provider with
  | .ok args => return .ok (← handler args)
  | .error response => return .error response

/-- Hands the arguments of a valid request to a handler that reports nothing. -/
def handle {α : Type} (v : Validator) (set : ParamSet) (provider : Provider)
    (handler : Arguments → α) : Logged (Except Response α) :=
  v.handleLogged set provider fun args => return handler args

/-- The text that shows a validator: its configuration, and whether it has a formatter. -/
def debugText (v : Validator) : String :=
  "Validator \x7b config: ValidatorConfig \x7b failure_status: " ++
    String.ofList (Nat.toDigits 10 v.config.failureStatus.toNat) ++
    ", error_key: " ++ Text.quote v.config.errorKey ++
    ", log_failures: " ++ Event.flag v.config.logFailures ++
    " \x7d, custom_formatter: " ++ Event.flag v.formatter.isSome ++ " \x7d"

end Validator

end RequestParams
