import Failover.Balancer.Basic
import Failover.Cancellation
import Failover.Policy.Basic

/-!
# Calls — what a call runs in, and what it changes

A call runs in a setup that stays as it is, and changes a world: the balancer's state, the
generator of the jitter and the call's journal.  This module holds both, and the single steps from
which calls are built.
-/

namespace Failover

/-- How delays are waited out. -/
inductive Sleeper where
  /-- Returns at once. -/
  | recording
  /-- Lets the time pass. -/
  | timer
deriving DecidableEq, Inhabited, Repr

/-- What a call runs in. -/
structure Setup (σ : Type) where
  balancer : Balancer σ
  pipeline : Pipeline
  sink : Sink
  sleeper : Sleeper
  token : Cancellation

/-- What a call changes. -/
structure World (σ : Type) where
  balancer : σ
  words : Words
  journal : Journal

namespace World

variable {σ : Type}

/-- The world before a call. -/
def start (balancer : σ) (words : Words) : World σ := ⟨balancer, words, .empty⟩

/-- Makes an entry in the journal. -/
def add (w : World σ) (e : Entry) : World σ := { w with journal := w.journal.add e }

/-- Makes entries in the journal, first to last. -/
def addAll (w : World σ) (es : List Entry) : World σ := { w with journal := w.journal.addAll es }

/-- Enters questions with their answers. -/
def ask (w : World σ) (qs : List Question) : World σ := w.addAll (qs.map .asked)

/-- Logs a line. -/
def log (w : World σ) (l : LogLine) : World σ := w.add (.logged l)

end World

namespace Setup

variable {σ : Type}

/-- Whether the token has fired. -/
def cancelled (s : Setup σ) (w : World σ) : Bool := s.token.fired w.journal

/-- Sends an event to the sink. -/
def emit (s : Setup σ) (w : World σ) (e : Event) : World σ :=
  (w.add (.emitted e)).addAll ((s.sink.logLine? e).toList.map .logged)

/-- Asks the balancer for an instance. -/
def choose (s : Setup σ) (w : World σ) (service : String) : Option Instance × World σ :=
  let (choice, b) := s.balancer.choose service w.balancer
  (choice, { w with balancer := b }.add (.chose service choice))

/-- Gives a bound request to the balancer to be sent. -/
def executeOn (s : Setup σ) (w : World σ) (service : String) (i : Instance) (r : Request) :
    Except Failure Response × World σ :=
  let w := w.add (.attempted service i r)
  let (reply, b) := s.balancer.executeOn service i r w.balancer
  (reply, { w with balancer := b })

/-- Requests a wait, and says whether the token fired before it was over. -/
def sleep (s : Setup σ) (w : World σ) (delay : Duration) : Bool × World σ :=
  let w := w.add (.slept delay)
  if s.cancelled w then (true, w)
  else
    match s.sleeper with
    | .recording => (false, w)
    | .timer =>
      match s.token.during w.journal delay with
      | some time => (true, w.add (.waited time))
      | none => (false, w.add (.waited delay))

end Setup

/-- The line that is logged when a request cannot be bound to an instance. -/
def bindFailureLine (i : Instance) (attempt : Nat) (f : Failure) : LogLine :=
  ⟨.warn, .transform, "cannot bind request to instance",
    [("instance", i.text), ("attempt", toString attempt), ("error", f.text)]⟩

end Failover
