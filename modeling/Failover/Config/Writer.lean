import Failover.Config.Basic
import Failover.Json.Printer

/-!
# Configuration — writing it as JSON

Every field is written, in the order of declaration.
-/

namespace Failover

/-- Writes a backoff; a ceiling that is not set is `null`. -/
def BackoffConfig.toJson (c : BackoffConfig) : Json :=
  .ofMembers
    [("enabled", .bool c.enabled),
     ("min_backoff_ms", .ofNat c.minMillis.toNat),
     ("max_backoff_ms", match c.maxMillis with
      | none => .null
      | some n => .ofNat n.toNat),
     ("jitter", .ofFloat c.jitter)]

/-- Writes the settings of a service; sets are listed in ascending order. -/
def RetryConfig.toJson (c : RetryConfig) : Json :=
  .ofMembers
    [("enabled", .bool c.enabled),
     ("retry_on_all_operations", .bool c.allOperations),
     ("max_attempts_same_instance", .ofNat c.sameInstance.toNat),
     ("max_attempts_next_instance", .ofNat c.nextInstance.toNat),
     ("retryable_status_codes", .array (c.statusCodes.toList.map fun n => .ofNat n.toNat)),
     ("retryable_failures", .array (c.failures.toList.map fun k => .ofString k.keyword)),
     ("backoff", c.backoff.toJson)]

/-- Writes properties, the services in ascending order of their names. -/
def Properties.toJson (p : Properties) : Json :=
  .ofMembers
    [("enabled", .bool p.enabled),
     ("defaults", p.defaults.toJson),
     ("services", .ofMembers (p.services.entries.map fun e => (e.1, e.2.toJson)))]

/-- The compact text of properties. -/
def Properties.text (p : Properties) : String := p.toJson.text

end Failover
