import Failover.Instance

/-!
# Policies — the bookkeeping of a call

What a call has done so far, as far as a policy may ask about it: the attempts on the instance it
is bound to, the selections, the distinct instances, and the attempts altogether.
-/

namespace Failover

/-- The counters of one call, with the instance it is bound to and the one it let go last. -/
structure Context where
  service : String
  /-- Attempts on the bound instance. -/
  sameAttempts : Nat
  /-- Selections of an instance that was not the one just let go. -/
  distinct : Nat
  /-- Selections, also those that gave the same instance again. -/
  selections : Nat
  /-- Attempts on all instances, with the one under way. -/
  attempts : Nat
  bound : Option Instance
  released : Option Instance
deriving DecidableEq, Inhabited

namespace Context

/-- The context of a call that has done nothing yet. -/
def fresh (service : String) : Context := ⟨service, 0, 0, 0, 0, none, none⟩

/-- Whether an instance is another endpoint than the one let go last. -/
def isNew (c : Context) (i : Instance) : Bool :=
  match c.released with
  | none => true
  | some j => !j.sameEndpoint i

/-- The context after an instance has been selected. -/
def bind (c : Context) (i : Instance) : Context :=
  { c with
    distinct := if c.isNew i then c.distinct + 1 else c.distinct
    selections := c.selections + 1
    sameAttempts := 0
    bound := some i }

/-- The context once another attempt has begun. -/
def recordAttempt (c : Context) : Context :=
  { c with sameAttempts := c.sameAttempts + 1, attempts := c.attempts + 1 }

/-- The context after the bound instance has been let go, so that the next attempt selects. -/
def release (c : Context) : Context := { c with bound := none, released := c.bound }

end Context

end Failover
