import Failover.Balancer.Basic

/-!
# Balancers — following a script

A balancer for rehearsals.  It serves scripted choices first and then its pool in turn; it answers
an attempt with the failure set for the instance, else with the next queued outcome, else with
status 200; and it records what it was asked to send.
-/

namespace Failover

/-- What the balancer was asked to send, and where. -/
structure RecordedAttempt where
  service : String
  instanceId : String
  request : Request
deriving DecidableEq, Inhabited, Repr

/-- What a scripted balancer is still going to offer and to answer, and what was asked of it. -/
structure Script where
  pool : List Instance
  /-- Choices that come before the pool; `none` offers no instance. -/
  choices : List (Option Instance)
  /-- How often the pool has been served from. -/
  cursor : Nat
  /-- How often an instance was asked for. -/
  selections : Nat
  outcomes : List (Except Failure Status)
  /-- Failures by the id of the instance. -/
  failing : OrderedMap String Failure
  attempts : Array RecordedAttempt

namespace Script

/-- The script without a pool, which offers no instance. -/
def empty : Script := ⟨[], [], 0, 0, [], .empty, #[]⟩

instance : Inhabited Script := ⟨empty⟩

/-- The next scripted choice, or the next instance of the pool. -/
def choose (s : Script) : Option Instance × Script :=
  let s := { s with selections := s.selections + 1 }
  match s.choices with
  | c :: cs => (c, { s with choices := cs })
  | [] =>
    if s.pool.isEmpty then (none, s)
    else (s.pool[s.cursor % s.pool.length]?, { s with cursor := s.cursor + 1 })

/-- The next outcome for an instance. -/
def nextOutcome (s : Script) (instanceId : String) : Except Failure Status × Script :=
  match s.failing.get? instanceId with
  | some failure => (.error failure, s)
  | none =>
    match s.outcomes with
    | o :: os => (o, { s with outcomes := os })
    | [] => (.ok .ok, s)

/-- Records an attempt and answers it with the next outcome. -/
def executeOn (s : Script) (service : String) (i : Instance) (r : Request) :
    Except Failure Response × Script :=
  let s := { s with attempts := s.attempts.push ⟨service, i.id, r⟩ }
  let (outcome, s) := s.nextOutcome i.id
  (outcome.map fun status => ⟨status, ""⟩, s)

/-- Adds an outcome behind those that are queued. -/
def push (s : Script) (outcome : Except Failure Status) : Script :=
  { s with outcomes := s.outcomes ++ [outcome] }

/-- Lets every attempt on an instance fail from now on. -/
def failInstance (s : Script) (instanceId : String) (failure : Failure) : Script :=
  { s with failing := s.failing.insert instanceId failure }

/-- How many attempts were recorded for an instance. -/
def attemptsOn (s : Script) (instanceId : String) : Nat :=
  s.attempts.countP fun a => a.instanceId == instanceId

/-- The status of every answer that an atomic balancer gives by itself. -/
def atomicStatus : Status := { code := 299 }

/-- The answer of an atomic balancer: it names the service and the URI it was asked for. -/
def atomicAnswer (service : String) (raw : Request) : Response :=
  ⟨atomicStatus, service ++ " " ++ raw.uri.text⟩

end Script

/-- The scripted balancer.  An atomic one answers the combined call by itself, without its
script. -/
def Balancer.scripted (atomic : Bool) : Balancer Script where
  choose _ s := s.choose
  executeOn service i r s := s.executeOn service i r
  combined := if atomic then some fun service _ raw s => (.ok (Script.atomicAnswer service raw), s)
    else none

end Failover
