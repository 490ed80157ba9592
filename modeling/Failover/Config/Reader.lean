import Failover.Config.Basic
import Failover.Json.Parser

/-!
# Configuration — reading it from JSON

A record may be written as an object or as an array of its fields in their order of declaration.
Fields that are left out take their default, unknown members of an object are ignored, and a
known member must not be repeated.
-/

namespace Failover

/-! ### Records -/

/-- The fields of a record by name. -/
abbrev Fields := String → Option Json

/-- How often a name occurs among members. -/
def memberCount (name : String) (ms : List (StringContent × Json)) : Nat :=
  ms.countP fun m => m.1 == some name

/-- The value of the first member under a name. -/
def firstMember (name : String) (ms : List (StringContent × Json)) : Option Json :=
  (ms.find? fun m => m.1 == some name).map Prod.snd

/-- The fields of a record that has the given names, in their order of declaration. -/
def fieldsOf (names : List String) : Json → Option Fields
  | .object ms =>
    if ms.all (fun m => m.1.isSome) && names.all (fun name => memberCount name ms ≤ 1) then
      some fun name => firstMember name ms
    else none
  | .array items =>
    if items.length ≤ names.length then some fun name => (names.zip items).lookup name else none
  | _ => none

/-- The value of a field, or its default where the record does not have it. -/
def fieldOr {α : Type} (default : α) (read : Json → Option α) (field : Option Json) : Option α :=
  match field with
  | none => some default
  | some j => read j

/-- Reads every item of an array. -/
def readItems {α : Type} (read : Json → Option α) : Json → Option (List α)
  | .array items => items.mapM read
  | _ => none

/-! ### The records of the configuration -/

/-- A value that may be written as `null`. -/
def readOptional {α : Type} (read : Json → Option α) : Json → Option (Option α)
  | .null => some none
  | j => (read j).map some

/-- A kind of failure: its keyword, or an object whose one member is the keyword with `null`. -/
def readFailureKind : Json → Option FailureKind
  | .string (some s) => FailureKind.ofKeyword? s
  | .object [(some s, .null)] => FailureKind.ofKeyword? s
  | _ => none

/-- The names under which the fields of a backoff are written. -/
def BackoffConfig.fieldNames : List String :=
  ["enabled", "min_backoff_ms", "max_backoff_ms", "jitter"]

/-- Reads a backoff.  Its numbers are checked for their width only. -/
def BackoffConfig.ofJson (j : Json) : Option BackoffConfig := do
  let field ← fieldsOf BackoffConfig.fieldNames j
  let enabled ← fieldOr BackoffConfig.default.enabled Json.bool? (field "enabled")
  let minMillis ← fieldOr BackoffConfig.default.minMillis Json.uint64? (field "min_backoff_ms")
  let maxMillis ← fieldOr BackoffConfig.default.maxMillis (readOptional Json.uint64?)
    (field "max_backoff_ms")
  let jitter ← fieldOr BackoffConfig.default.jitter Json.float? (field "jitter")
  return ⟨enabled, minMillis, maxMillis, jitter⟩

/-- The names under which the settings of a service are written. -/
def RetryConfig.fieldNames : List String :=
  ["enabled", "retry_on_all_operations", "max_attempts_same_instance",
   "max_attempts_next_instance", "retryable_status_codes", "retryable_failures", "backoff"]

/-- Reads the settings of a service.  Sets are arrays, in any order and with repetitions. -/
def RetryConfig.ofJson (j : Json) : Option RetryConfig := do
  let field ← fieldsOf RetryConfig.fieldNames j
  let enabled ← fieldOr RetryConfig.default.enabled Json.bool? (field "enabled")
  let allOperations ← fieldOr RetryConfig.default.allOperations Json.bool?
    (field "retry_on_all_operations")
  let sameInstance ← fieldOr RetryConfig.default.sameInstance Json.uint64?
    (field "max_attempts_same_instance")
  let nextInstance ← fieldOr RetryConfig.default.nextInstance Json.uint64?
    (field "max_attempts_next_instance")
  let statusCodes ← fieldOr RetryConfig.default.statusCodes
    (fun j => (readItems Json.uint16? j).map .ofList) (field "retryable_status_codes")
  let failures ← fieldOr RetryConfig.default.failures
    (fun j => (readItems readFailureKind j).map .ofList) (field "retryable_failures")
  let backoff ← fieldOr RetryConfig.default.backoff BackoffConfig.ofJson (field "backoff")
  return ⟨enabled, allOperations, sameInstance, nextInstance, statusCodes, failures, backoff⟩

/-- A member of the services: its name must be Unicode text. -/
def readService : StringContent × Json → Option (String × RetryConfig)
  | (some name, j) => (RetryConfig.ofJson j).map fun c => (name, c)
  | (none, _) => none

/-- The services by name; of entries under one name the last stands. -/
def readServices : Json → Option (OrderedMap String RetryConfig)
  | .object ms => (ms.mapM readService).map .ofList
  | _ => none

/-- The names under which the fields of properties are written. -/
def Properties.fieldNames : List String := ["enabled", "defaults", "services"]

/-- Reads properties.  Without defaults nothing but the listed services is retried. -/
def Properties.ofJson (j : Json) : Option Properties := do
  let field ← fieldsOf Properties.fieldNames j
  let enabled ← fieldOr Properties.default.enabled Json.bool? (field "enabled")
  let defaults ← fieldOr Properties.default.defaults RetryConfig.ofJson (field "defaults")
  let services ← fieldOr Properties.default.services readServices (field "services")
  return ⟨enabled, defaults, services⟩

/-- Reads properties from their text and checks them; a text that cannot be read is refused before
anything is checked. -/
def Properties.load (text : String) : Except ConfigError Properties :=
  match (Json.parse text).bind Properties.ofJson with
  | none => .error .unreadable
  | some p =>
    match p.validate with
    | .error e => .error e
    | .ok _ => .ok p

end Failover
