import RequestParams.Config
import RequestParams.Json.Reader

/-!
# Configuration from JSON

A configuration is read from an object, or from an array of at most three settings in the order of
the fields. Missing settings keep their defaults; a known setting may occur once only, and unknown
ones are not looked into.
-/

namespace RequestParams

namespace Config

/-- The status of a number: an integer from zero up that fits in 16 bits. -/
def readStatus? : Outline → Option UInt16
  | .number n =>
    match n.number? with
    | some (.unsigned m) => if m.toNat < UInt16.size then some (UInt16.ofNat m.toNat) else none
    | _ => none
  | _ => none

/-- The key of a string. -/
def readKey? : Outline → Option String
  | .string units => StringUnit.text? units
  | _ => none

/-- The flag of a truth value. -/
def readFlag? : Outline → Option Bool
  | .bool b => some b
  | _ => none

/-- The settings found in a document. -/
structure Found where
  failureStatus : Option UInt16 := none
  errorKey : Option String := none
  logFailures : Option Bool := none

/-- The found settings, the others at their defaults. -/
def Found.complete (found : Found) : Config where
  failureStatus := found.failureStatus.getD default.failureStatus
  errorKey := found.errorKey.getD default.errorKey
  logFailures := found.logFailures.getD default.logFailures

/-- Adds one member of an object. -/
def Found.add? (found : Found) (key : String) (value : Outline) : Option Found :=
  match key with
  | "failure_status" =>
    if found.failureStatus.isSome then none
    else (readStatus? value).map fun status => { found with failureStatus := some status }
  | "error_key" =>
    if found.errorKey.isSome then none
    else (readKey? value).map fun key => { found with errorKey := some key }
  | "log_failures" =>
    if found.logFailures.isSome then none
    else (readFlag? value).map fun flag => { found with logFailures := some flag }
  | _ => some found

/-- Adds the members of an object one by one. -/
def Found.addAll? (found : Found) : List (List StringUnit × Outline) → Option Found
  | [] => some found
  | (key, value) :: rest => do
    let found ← found.add? (← StringUnit.text? key) value
    found.addAll? rest

/-- The settings of an array. -/
def ofItems? : List Outline → Option Found
  | [] => some {}
  | [status] => do
    return { failureStatus := some (← readStatus? status) }
  | [status, key] => do
    return { failureStatus := some (← readStatus? status), errorKey := some (← readKey? key) }
  | [status, key, flag] => do
    return {
      failureStatus := some (← readStatus? status)
      errorKey := some (← readKey? key)
      logFailures := some (← readFlag? flag) }
  | _ => none

/-- The configuration of an outline. -/
def ofOutline? : Outline → Option Config
  | .object members => (Found.addAll? {} members).map Found.complete
  | .array items => (ofItems? items).map Found.complete
  | _ => none

/-- Reads a configuration from JSON text. -/
def ofJsonText? (text : String) : Option Config :=
  (Outline.ofChars? text.toList).bind ofOutline?

end Config

end RequestParams
