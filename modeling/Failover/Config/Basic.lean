import Failover.Backoff.Basic
import Failover.Failure
import Failover.Ordered.Map
import Failover.Ordered.Set

/-!
# Configuration — what may be set, and when it is valid

A service's retry configuration, and the properties that hold one for every service: a global
switch, defaults, and entries that replace the defaults wholesale.

* `RetryConfig.validate`, `Properties.validate`: the first fault in a fixed order.
* `Properties.configFor`: the configuration that a service is called under.
-/

namespace Failover

/-! ### Types -/

/-- The delays between retries. -/
structure BackoffConfig where
  enabled : Bool
  minMillis : UInt64
  /-- Without it only the general ceiling holds. -/
  maxMillis : Option UInt64
  jitter : Float
deriving DecidableEq

/-- The retry settings of one service. -/
structure RetryConfig where
  /-- Whether the service is ever retried. -/
  enabled : Bool
  /-- Whether methods that are not safe are retried too. -/
  allOperations : Bool
  /-- Attempts on one instance before moving on. -/
  sameInstance : UInt64
  /-- Further instances to move on to after the first. -/
  nextInstance : UInt64
  statusCodes : OrderedSet UInt16
  failures : OrderedSet FailureKind
  backoff : BackoffConfig
deriving DecidableEq

/-- The retry settings of all services. -/
structure Properties where
  /-- Whether anything is retried at all. -/
  enabled : Bool
  defaults : RetryConfig
  services : OrderedMap String RetryConfig
deriving DecidableEq

/-! ### Defaults -/

/-- No delays; once switched on they start at 5 milliseconds, with jitter up to one half. -/
def BackoffConfig.default : BackoffConfig := ⟨false, 5, none, 0.5⟩

/-- One attempt on each of two instances, after a failed connection, a timeout or a reset. -/
def RetryConfig.default : RetryConfig where
  enabled := true
  allOperations := false
  sameInstance := 1
  nextInstance := 1
  statusCodes := .empty
  failures := .ofList [.connect, .timeout, .reset]
  backoff := .default

/-- The configuration of a service that is never retried. -/
def RetryConfig.disabled : RetryConfig := { RetryConfig.default with enabled := false }

/-- Without any entry nothing is retried. -/
def Properties.default : Properties := ⟨true, .disabled, .empty⟩

instance : Inhabited BackoffConfig := ⟨.default⟩
instance : Inhabited RetryConfig := ⟨.default⟩
instance : Inhabited Properties := ⟨.default⟩

/-- The properties with an entry for one service. -/
def Properties.withService (p : Properties) (service : String) (config : RetryConfig) :
    Properties :=
  { p with services := p.services.insert service config }

/-- A service's own entry, or the defaults. -/
def Properties.configFor (p : Properties) (service : String) : RetryConfig :=
  (p.services.get? service).getD p.defaults

/-- The largest number of 64 bits. -/
def maxCount : Nat := UInt64.size - 1

/-- The most attempts that one call can make, cut off at 64 bits. -/
def RetryConfig.maxTotalAttempts (c : RetryConfig) : Nat :=
  Nat.min (c.sameInstance.toNat * Nat.min (c.nextInstance.toNat + 1) maxCount) maxCount

/-! ### Comparison -/

/-- Whether two backoffs have the same settings. Jitters are compared as numbers: the two zeros are
the same, and what is not a number is not even the same as itself. -/
def BackoffConfig.agrees (a b : BackoffConfig) : Bool :=
  a.enabled == b.enabled && a.minMillis == b.minMillis && a.maxMillis == b.maxMillis
    && a.jitter == b.jitter

/-- Whether two configurations have the same settings. -/
def RetryConfig.agrees (a b : RetryConfig) : Bool :=
  a.backoff.agrees b.backoff && decide ({ a with backoff := b.backoff } = b)

/-- Whether two properties have the same settings for the same services. -/
def Properties.agrees (a b : Properties) : Bool :=
  a.enabled == b.enabled && a.defaults.agrees b.defaults
    && a.services.keys == b.services.keys
    && (List.zipWith RetryConfig.agrees a.services.values b.services.values).all id

/-! ### Validity -/

/-- Why a configuration is refused. -/
inductive ConfigError where
  /-- An instance must be tried at least once. -/
  | noSameInstanceAttempts
  | invalidStatusCode (code : UInt16)
  | invalidBackoff (cause : BackoffError)
  /-- The text is no document of properties. -/
  | unreadable
deriving DecidableEq, Repr

/-- The message of a refusal. -/
def ConfigError.text : ConfigError → String
  | .noSameInstanceAttempts => "max_attempts_same_instance must be >= 1 (got 0)"
  | .invalidStatusCode code =>
    "retryable status code " ++ toString code.toNat ++ " is not a valid HTTP status"
  | .invalidBackoff cause => "invalid backoff: " ++ cause.text
  | .unreadable => "could not parse retry properties"

/-- The backoff that is configured, if one is switched on. -/
def BackoffConfig.toBackoff (c : BackoffConfig) : Except ConfigError (Option Backoff) :=
  if c.enabled then
    match Backoff.of (.ofMillis c.minMillis.toNat) (c.maxMillis.map fun n => .ofMillis n.toNat)
      c.jitter with
    | .ok b => .ok (some b)
    | .error cause => .error (.invalidBackoff cause)
  else .ok none

/-- Whether a code is one of the five classes of responses. -/
def isResponseCode (code : UInt16) : Bool := 100 ≤ code && code ≤ 599

/-- Looks for a fault: first in the attempts, then in the codes from the lowest up, then in the
backoff. -/
def RetryConfig.validate (c : RetryConfig) : Except ConfigError Unit :=
  if c.sameInstance = 0 then .error .noSameInstanceAttempts
  else
    match c.statusCodes.toList.find? (fun code => !isResponseCode code) with
    | some code => .error (.invalidStatusCode code)
    | none =>
      match c.backoff.toBackoff with
      | .error e => .error e
      | .ok _ => .ok ()

/-- The first fault among some configurations. -/
def RetryConfig.validateAll : List RetryConfig → Except ConfigError Unit
  | [] => .ok ()
  | c :: cs =>
    match c.validate with
    | .error e => .error e
    | .ok _ => validateAll cs

/-- Looks for a fault: first in the defaults, then in the entries in the order of their names. -/
def Properties.validate (p : Properties) : Except ConfigError Unit :=
  RetryConfig.validateAll (p.defaults :: p.services.values)

end Failover
