import Failover.CallError
import Failover.Pipeline

/-!
# Balancers — choosing an instance and sending to it

A balancer offers an instance of a service and sends a bound request to one.  It has a state of
its own, so that its answers may depend on all it was asked before.
-/

namespace Failover

/-- A balancer over states `σ`. -/
structure Balancer (σ : Type) where
  /-- Offers an instance of a service, if it has one. -/
  choose : (service : String) → σ → Option Instance × σ
  /-- Sends a bound request to an instance. -/
  executeOn : (service : String) → Instance → Request → σ → Except Failure Response × σ
  /-- Chooses, binds and sends in one, where the balancer has a way of its own to do so. -/
  combined : Option ((service : String) → Pipeline → Request → σ → Outcome × σ)

end Failover
