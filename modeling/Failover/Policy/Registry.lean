import Failover.Log
import Failover.Policy.Basic

/-!
# Policies — the registry

Policies by the name of the service, with a fallback for every other name.

* `policyFor_register`, `policyFor_remove`: an update changes what one name resolves to and no
  other.
-/

namespace Failover

/-- The policies of services, with one for the services without an entry. -/
structure Registry where
  policies : OrderedMap String Policy
  fallback : Policy

namespace Registry

/-- The registry that resolves every name to one policy. -/
def ofFallback (fallback : Policy) : Registry := ⟨.empty, fallback⟩

instance : Inhabited Registry := ⟨ofFallback .never⟩

/-- The policy that a service is called under. -/
def policyFor (r : Registry) (service : String) : Policy :=
  (r.policies.get? service).getD r.fallback

/-- The names with an entry, ascending. -/
def services (r : Registry) : List String := r.policies.keys

/-- Puts a policy under a name; one that was there is replaced. -/
def register (r : Registry) (service : String) (policy : Policy) : Registry :=
  { r with policies := r.policies.insert service policy }

/-- The line of a registration that replaces another. -/
def replacedLine (service : String) : LogLine :=
  ⟨.warn, .policy, "retry policy replaced; last registration wins", [("service", service)]⟩

/-- The line that is logged when a registration replaces an entry. -/
def replacementLog (r : Registry) (service : String) : List LogLine :=
  if r.policies.contains service then [replacedLine service] else []

/-- Takes the entry of a name away. -/
def remove (r : Registry) (service : String) : Registry :=
  { r with policies := r.policies.erase service }

/-- Whether a name has an entry. -/
def contains (r : Registry) (service : String) : Bool := r.policies.contains service

/-- Enters the policies of configurations, first to last; the first fault ends it. -/
def addEntries (policies : OrderedMap String Policy) :
    List (String × RetryConfig) → Except ConfigError (OrderedMap String Policy)
  | [] => .ok policies
  | (service, config) :: entries =>
    match Policy.ofEntry? config with
    | .error e => .error e
    | .ok policy => addEntries (policies.insert service policy) entries

/-- The registry of properties: the defaults become the fallback, every entry a policy. -/
def ofProperties (p : Properties) : Except ConfigError Registry :=
  match Policy.ofEntry? p.defaults with
  | .error e => .error e
  | .ok fallback =>
    match addEntries .empty p.services.entries with
    | .error e => .error e
    | .ok policies => .ok ⟨policies, fallback⟩

/-! ### Look-ups after an update -/

/-- A registration changes what its own name resolves to and no other. -/
@[simp] theorem policyFor_register {r : Registry} {s t : String} {p : Policy} :
    (r.register s p).policyFor t = if t = s then p else r.policyFor t := by
  by_cases h : t = s <;> simp [policyFor, register, h]

/-- A name that is removed resolves to the fallback; no other is changed. -/
@[simp] theorem policyFor_remove {r : Registry} {s t : String} :
    (r.remove s).policyFor t = if t = s then r.fallback else r.policyFor t := by
  by_cases h : t = s <;> simp [policyFor, remove, h]

end Registry

end Failover
