import Failover.Event
import Failover.Log

/-!
# Sinks — where events go

Emitting is best effort: what a sink does with an event never changes the call.  A bounded memory
keeps the newest events and counts those it had to drop.
-/

namespace Failover

/-- The sinks an event can be sent to. -/
inductive Sink where
  /-- Keeps the newest events. -/
  | memory
  /-- Forgets every event. -/
  | null
  /-- Writes every event to the log. -/
  | log
  /-- Never becomes ready, so that no event reaches it. -/
  | neverReady
  /-- Keeps an event and then fails. -/
  | failing
deriving DecidableEq, Inhabited, Repr

namespace Sink

/-- Whether events reach the sink at all. -/
def receives : Sink → Bool
  | .neverReady => false
  | _ => true

/-- Whether the events that reach the sink are kept in memory. -/
def keeps : Sink → Bool
  | .memory => true
  | .failing => true
  | _ => false

/-- The log line a sink writes for an event. -/
def logLine? : Sink → Event → Option LogLine
  | .log, e => some ⟨.info, .telemetry, "lb_event", [("event", e.text)]⟩
  | _, _ => none

end Sink

/-- A memory of events, oldest first. -/
structure MemorySink where
  capacity : Nat
  retained : List Event
  evicted : Nat
deriving DecidableEq, Repr

namespace MemorySink

/-- An empty memory; it holds at least one event. -/
def ofCapacity (n : Nat) : MemorySink := ⟨Nat.max n 1, [], 0⟩

/-- Adds an event; in a full memory it takes the place of the oldest. -/
def emit (m : MemorySink) (e : Event) : MemorySink :=
  if m.capacity ≤ m.retained.length then
    { m with retained := m.retained.drop 1 ++ [e], evicted := m.evicted + 1 }
  else { m with retained := m.retained ++ [e] }

/-- Adds events, first to last. -/
def emitAll (m : MemorySink) (es : List Event) : MemorySink := es.foldl emit m

/-- The retained events that satisfy a test. -/
def count (m : MemorySink) (p : Event → Bool) : Nat := m.retained.countP p

end MemorySink

end Failover
