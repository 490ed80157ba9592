import Failover.Call.Retry
import Failover.Policy.Registry

/-!
# Calls — clients

A client makes its calls either plainly or with the policies of a registry.  A session is what
lasts from one call to the next: the balancer's state, the generator and the memory of events.
-/

namespace Failover

/-- How calls are made: plainly, or under the policies of a registry. -/
inductive Client where
  | plain
  | retrying (registry : Registry)

namespace Client

/-- The client of properties: their switch decides whether it retries at all. -/
def ofProperties (p : Properties) : Except ConfigError Client :=
  if p.enabled then
    match Registry.ofProperties p with
    | .error e => .error e
    | .ok registry => .ok (.retrying registry)
  else .ok .plain

/-- Whether calls are made under policies; they may still be made only once. -/
def isRetrying : Client → Bool
  | .plain => false
  | .retrying _ => true

/-- As many turns as the counters of a call can count. -/
def maxTurns : Nat := UInt64.size

variable {σ : Type}

/-- Calls a service by its name. -/
def execute (c : Client) (s : Setup σ) (service : String) (raw : Request) (w : World σ) :
    Option (Outcome × World σ) :=
  match c with
  | .plain => some (s.executePlain w service raw)
  | .retrying registry => s.executeRetrying maxTurns (registry.policyFor service) service raw w

/-- Calls the service that the request's URI is addressed to. -/
def intercept (c : Client) (s : Setup σ) (raw : Request) (w : World σ) :
    Option (Outcome × World σ) :=
  match raw.uri.service? with
  | none => some (.error (.missingServiceName raw.uri.text), w)
  | some service => c.execute s service raw w

end Client

/-! ### Sessions -/

/-- What lasts from one call to the next. -/
structure Session (σ : Type) where
  balancer : σ
  words : Words
  memory : MemorySink

/-- What a call came to. -/
structure Report where
  outcome : Outcome
  journal : Journal

namespace Session

variable {σ : Type}

/-- Runs a call from a fresh journal and brings its events to the memory, if the sink keeps
them. -/
def run (session : Session σ) (sink : Sink)
    (call : World σ → Option (Outcome × World σ)) : Option (Report × Session σ) :=
  match call (.start session.balancer session.words) with
  | none => none
  | some (outcome, w) =>
    let memory := if sink.keeps then session.memory.emitAll w.journal.events else session.memory
    some (⟨outcome, w.journal⟩, ⟨w.balancer, w.words, memory⟩)

end Session

end Failover
