import Failover.Balancer.Scripted
import Failover.Decimal.Shortest
import Failover.Policy.Registry
import Failover.Rebind.Basic
import Failover.Text.Quoted

/-!
# Inspection — the structure of values as text

A record is its name with its fields between braces, a list stands between brackets, and sets and
maps between braces.
-/

namespace Failover.Inspect

open Failover.Text (quoted quotedBytes quotedHeader)

/-! ### Shapes -/

/-- Parts behind one another, with commas between. -/
def joined (parts : List String) : String := String.intercalate ", " parts

/-- A record with its fields in order. -/
def record (name : String) (fields : List (String × String)) : String :=
  name ++ " \x7b " ++ joined (fields.map fun f => f.1 ++ ": " ++ f.2) ++ " \x7d"

/-- A list of items that are texts already. -/
def list (items : List String) : String := "[" ++ joined items ++ "]"

/-- A set of items that are texts already. -/
def set (items : List String) : String := "\x7b" ++ joined items ++ "\x7d"

/-- A map: its keys, each with its value. -/
def map (entries : List (String × String)) : String :=
  set (entries.map fun e => e.1 ++ ": " ++ e.2)

/-- A value with the name of what wraps it. -/
def wrapped (name value : String) : String := name ++ "(" ++ value ++ ")"

/-- A value that may be missing. -/
def optional (o : Option String) : String :=
  match o with
  | none => "None"
  | some value => wrapped "Some" value

/-- A truth value. -/
def flag (b : Bool) : String := if b then "true" else "false"

/-- Doubles are written positionally from 0.0001 up to below 10000000000000000, otherwise with an
exponent that has a sign only where it is negative; a tie goes away from zero. -/
def floatFormat : Decimal.Format :=
  { lowest := -4, highest := 15, plusSign := false, tie := .awayFromZero }

/-- A double; the ones that are no finite numbers have names. -/
def float (x : Float) : String :=
  if x.isNaN then "NaN"
  else if x.isInf then if x < 0 then "-inf" else "inf"
  else (Numeral.ofFloat floatFormat x).text

/-! ### Values -/

/-- A kind of failure under the name it is declared with. -/
def failureKind : FailureKind → String
  | .connect => "Connect"
  | .timeout => "Timeout"
  | .reset => "Reset"
  | .protocol => "Protocol"
  | .cancelled => "Cancelled"
  | .invalidAddress => "InvalidAddress"
  | .other => "Other"

/-- An instance with all that is known about it. -/
def serviceInstance (i : Instance) : String :=
  record "ServiceInstance"
    [("service_id", quoted i.service), ("instance_id", quoted i.id), ("host", quoted i.host),
     ("port", toString i.port.toNat), ("secure", flag i.secure),
     ("metadata", map (i.metadata.entries.map fun e => (quoted e.1, quoted e.2)))]

/-- Headers: a name is repeated for each of its values. -/
def headers (h : Headers) : String :=
  map (h.groups.flatMap fun g => g.2.map fun v => (quoted g.1.name, quotedHeader v))

/-- A request; its body is shown as bytes. -/
def request (r : Request) : String :=
  record "OutboundRequest"
    [("method", r.method.name), ("uri", r.uri.text), ("headers", headers r.headers),
     ("body", quotedBytes r.body), ("attempt", toString r.attempt)]

/-- A pipeline shows how many transformers it has. -/
def pipeline (p : Pipeline) : String :=
  record "RequestFactory" [("transformers", toString p.transformers.length)]

/-- A request that waits to be bound. -/
def pending (raw : Request) (p : Pipeline) : String :=
  record "InstanceAwareRequest"
    [("raw", request raw), ("transformers", toString p.transformers.length)]

/-- A handle shows the value it holds. -/
def bound (value : String) : String := wrapped "BoundConfig" value

/-- A configured backoff, whether or not it is switched on. -/
def backoffConfig (c : BackoffConfig) : String :=
  record "BackoffConfig"
    [("enabled", flag c.enabled), ("min_backoff_ms", toString c.minMillis.toNat),
     ("max_backoff_ms", optional (c.maxMillis.map fun n => toString n.toNat)),
     ("jitter", float c.jitter)]

/-- The settings of a service. -/
def retryConfig (c : RetryConfig) : String :=
  record "RetryPolicyConfig"
    [("enabled", flag c.enabled), ("retry_on_all_operations", flag c.allOperations),
     ("max_attempts_same_instance", toString c.sameInstance.toNat),
     ("max_attempts_next_instance", toString c.nextInstance.toNat),
     ("retryable_status_codes", set (c.statusCodes.toList.map fun n => toString n.toNat)),
     ("retryable_failures", set (c.failures.toList.map failureKind)),
     ("backoff", backoffConfig c.backoff)]

/-- A backoff with its delays as spans of time. -/
def backoff (b : Backoff) : String :=
  record "Backoff" [("min", b.min.text), ("max", b.max.text), ("jitter", float b.jitter)]

/-- A configured policy; of a classifier only its presence shows. -/
def configuredPolicy (c : Policy.Configured) : String :=
  record "ConfiguredRetryPolicy"
    [("config", retryConfig c.config), ("backoff", optional (c.backoff.map backoff)),
     ("classifier", optional (c.classifier.map fun _ => quoted "<predicate>"))]

/-- A registry whose fallback never retries. -/
def registry (r : Registry) : String :=
  record "RetryPolicyRegistry"
    [("services", list (r.services.map quoted)), ("fallback", "NeverRetryPolicy")]

/-- A recorded failure. -/
def rebindError : RebindError → String
  | .failed name message =>
    record "Failed" [("name", quoted name), ("message", quoted message)]
  | .crashed name => record "Panicked" [("name", quoted name)]

/-- A rebinder: of its resets only the names show. -/
def rebinder {ρ : Type} (r : Rebinder ρ) : String :=
  record "ConfigurationRebinder"
    [("context_id", quoted r.contextId), ("managed", set (r.names.map quoted)),
     ("errors", map (r.errors.entries.map fun e => (quoted e.1, rebindError e.2)))]

/-- A scripted balancer shows its pool and how often it was used. -/
def script (s : Script) : String :=
  record "ScriptedLoadBalancer"
    [("instances", list (s.pool.map serviceInstance)),
     ("selections", toString s.selections), ("attempts", toString s.attempts.size)]

end Failover.Inspect
