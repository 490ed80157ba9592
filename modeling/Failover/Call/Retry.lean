import Failover.Call.Once

/-!
# Calls — with retries

A call first asks the policy whether its method may be retried.  If not, it is made once.
Otherwise it runs in turns.  A turn selects an instance where none is bound, binds the request
anew, sends it, and weighs the reply; a reply that can be retried leads to another attempt on the
same instance while the policy allows one, then to the next instance, and in the end to giving up.

* `Policy.verdict`: what a reply means.
* `Policy.move`: where the next attempt goes.
* `turn`: one attempt and what follows from it.
* `executeRetrying`: the whole call.
-/

namespace Failover

/-! ### Decisions -/

/-- What a reply means for the call. -/
inductive Verdict where
  /-- A response that the caller gets. -/
  | usable (response : Response)
  /-- The transport was cancelled. -/
  | cancelled
  /-- A failure that is not retried. -/
  | fatal (failure : Failure)
  /-- An outcome worth another attempt. -/
  | retryable (last : LastOutcome)
deriving DecidableEq

/-- Where the next attempt goes. -/
inductive Move where
  | same
  | next
  | giveUp
deriving DecidableEq

namespace Policy

/-- Weighs a reply.  A failure that is a cancellation is known as such before the policy is asked
about it. -/
def verdict (p : Policy) : Except Failure Response → Verdict
  | .ok r => if p.retriesStatus r.status then .retryable (.response r) else .usable r
  | .error f =>
    if f.isCancelled then .cancelled
    else if p.retriesFailure f then .retryable (.failure f)
    else .fatal f

/-- The questions that `verdict` puts to the policy. -/
def verdictQuestions (p : Policy) : Except Failure Response → List Question
  | .ok r => [.retriesStatus r.status (p.retriesStatus r.status)]
  | .error f => if f.isCancelled then [] else [.retriesFailure f.kind (p.retriesFailure f)]

/-- Where the policy lets the call go: it stays on the bound instance as long as it may. -/
def move (p : Policy) (c : Context) : Move :=
  if p.allowsSame c then .same else if p.allowsNext c then .next else .giveUp

/-- The questions that `move` puts to the policy. -/
def moveQuestions (p : Policy) (c : Context) : List Question :=
  if p.allowsSame c then [.allowsSame c true]
  else [.allowsSame c false, .allowsNext c (p.allowsNext c)]

end Policy

/-- The context with which the next attempt begins. -/
def Context.after (c : Context) : Move → Context
  | .next => c.release
  | _ => c

/-- The outcome of a call whose only attempt could have been retried but is not. -/
def LastOutcome.asOutcome (service : String) : LastOutcome → Outcome
  | .response r => .ok r
  | .failure f => .error (.connectivity service f)

/-! ### Log lines -/

/-- The line of a call that is made once because its method may change something. -/
def unsafeMethodLine (service : String) (m : Method) : LogLine :=
  ⟨.debug, .retry, "method not safe to retry; executing once",
    [("service", service), ("method", m.name)]⟩

/-- The line of a call that is made once because its service is not retried. -/
def retryDisabledLine (service : String) : LogLine :=
  ⟨.debug, .retry, "retry disabled for service; executing once", [("service", service)]⟩

/-- The line of a call that found no instance, with the attempts made before. -/
def noInstanceLine (c : Context) : LogLine :=
  ⟨.debug, .retry, "no instance available",
    [("service", c.service), ("attempts", toString c.attempts)]⟩

/-- The line of a selection, with the count of distinct instances that includes it. -/
def selectedLine (c : Context) (i : Instance) : LogLine :=
  ⟨.debug, .retry, "instance selected",
    [("service", c.service), ("instance", i.id), ("distinct", toString c.distinct)]⟩

/-- The line of a failure that is handed to the caller. -/
def fatalLine (c : Context) (f : Failure) : LogLine :=
  ⟨.debug, .retry, "non-retryable failure",
    [("service", c.service), ("attempt", toString c.attempts), ("error", f.text)]⟩

/-- The line of an attempt that is worth a retry. -/
def attemptFailedLine (c : Context) (i : Instance) (last : LastOutcome) : LogLine :=
  ⟨.debug, .retry, "attempt failed",
    [("service", c.service), ("instance", i.id), ("attempt", toString c.attempts),
     ("outcome", last.text)]⟩

/-- The line of a call that gives up. -/
def exhaustedLine (c : Context) (last : LastOutcome) : LogLine :=
  ⟨.warn, .retry, "retry budget exhausted",
    [("service", c.service), ("attempts", toString c.attempts),
     ("distinct", toString c.distinct), ("last", last.text)]⟩

/-! ### Turns -/

/-- What a turn leads to. -/
inductive Turn (σ : Type) where
  /-- Another turn, from this context. -/
  | again (context : Context) (world : World σ)
  /-- The end of the call. -/
  | over (outcome : Outcome) (world : World σ)

/-- What a selection leads to. -/
inductive Selection (σ : Type) where
  | bound (target : Instance) (context : Context) (world : World σ)
  | over (outcome : Outcome) (world : World σ)

namespace Setup

variable {σ : Type}

/-- The outcome of a call that is cancelled at this point. -/
def cancelledOutcome (c : Context) : Outcome := .error (.cancelled c.service c.attempts)

/-- The instance for the next attempt: the bound one, else one that the balancer offers, unless the
token has fired. -/
def select (s : Setup σ) (c : Context) (w : World σ) : Selection σ :=
  match c.bound with
  | some i => .bound i c w
  | none =>
    if s.cancelled w then .over (cancelledOutcome c) w
    else
      match s.choose w c.service with
      | (none, w) => .over (.error (.noInstanceAvailable c.service)) (w.log (noInstanceLine c))
      | (some i, w) =>
        let c := c.bind i
        .bound i c
          (s.emit (w.log (selectedLine c i)) (.instanceSelected c.service i.id c.distinct))

/-- Ends a call whose attempts are spent.  One that had only a single attempt ends as a plain call
does. -/
def giveUp (s : Setup σ) (c : Context) (w : World σ) (last : LastOutcome) : Turn σ :=
  if c.attempts = 1 then .over (last.asOutcome c.service) w
  else
    let w := w.log (exhaustedLine c last)
    .over (.error (.budgetExhausted c.service c.attempts c.distinct last))
      (s.emit w (.exhausted c.service c.attempts c.distinct w.journal.elapsed))

/-- Waits before the next attempt, which starts from the given context. -/
def pause (s : Setup σ) (p : Policy) (sameInstance : Bool) (c : Context) (w : World σ) : Turn σ :=
  if s.cancelled w then .over (cancelledOutcome c) w
  else
    let (delay, words) := p.delay c w.words
    let w := { w with words := words }.ask [.delay c delay]
    let w := s.emit w (.retryScheduled c.service sameInstance delay)
    -- Without a wait the token is not looked at again before the next selection.
    if delay.nanos = 0 then .again c w
    else
      match s.sleep w delay with
      | (true, w) => .over (cancelledOutcome c) w
      | (false, w) => .again c w

/-- Goes on after an outcome worth another attempt. -/
def retry (s : Setup σ) (p : Policy) (c : Context) (w : World σ) (i : Instance)
    (last : LastOutcome) : Turn σ :=
  let w := w.log (attemptFailedLine c i last)
  let w := s.emit w (.attemptFailed c.service i.id c.attempts last.text)
  let w := w.ask (p.moveQuestions c)
  match p.move c with
  | .giveUp => s.giveUp c w last
  | .same => s.pause p true (c.after .same) w
  | .next => s.pause p false (c.after .next) w

/-- Weighs the reply to an attempt. -/
def weigh (s : Setup σ) (p : Policy) (c : Context) (w : World σ) (i : Instance)
    (reply : Except Failure Response) : Turn σ :=
  let w := w.ask (p.verdictQuestions reply)
  match p.verdict reply with
  | .usable r => .over (.ok r) (s.emit w (.succeeded c.service c.attempts w.journal.elapsed))
  | .cancelled => .over (cancelledOutcome c) w
  | .fatal f => .over (.error (.connectivity c.service f)) (w.log (fatalLine c f))
  | .retryable last => s.retry p c w i last

/-- Makes an attempt on an instance. -/
def attempt (s : Setup σ) (p : Policy) (raw : Request) (i : Instance) (c : Context)
    (w : World σ) : Turn σ :=
  let c := c.recordAttempt
  match s.pipeline.bind raw i c.attempts with
  | .error f => .over (.error (.connectivity c.service f)) (w.log (bindFailureLine i c.attempts f))
  | .ok r =>
    let (reply, w) := s.executeOn w c.service i r
    s.weigh p c w i reply

/-- One attempt, from the selection to what follows from the reply. -/
def turn (s : Setup σ) (p : Policy) (raw : Request) (c : Context) (w : World σ) : Turn σ :=
  match s.select c w with
  | .over outcome w => .over outcome w
  | .bound i c w => s.attempt p raw i c w

/-- Takes turns until the call is over; nothing if it is not after the given number. -/
def turns (s : Setup σ) (p : Policy) (raw : Request) :
    (limit : Nat) → Context → World σ → Option (Outcome × World σ)
  | 0, _, _ => none
  | limit + 1, c, w =>
    match s.turn p raw c w with
    | .over outcome w => some (outcome, w)
    | .again c w => turns s p raw limit c w

/-! ### The whole call -/

/-- Makes a call once that the policy does not let retry. -/
def bypass (s : Setup σ) (p : Policy) (service : String) (raw : Request) (w : World σ) :
    Outcome × World σ :=
  let w := w.ask [.enabled p.enabled]
  let reason := if p.enabled then BypassReason.unsafeMethod else .retryDisabled
  let w := w.log (if p.enabled then unsafeMethodLine service raw.method
    else retryDisabledLine service)
  s.executeOnce (s.emit w (.bypassed service raw.method.name reason)) service raw

/-- The call of a retrying client, in at most the given number of turns. -/
def executeRetrying (s : Setup σ) (limit : Nat) (p : Policy) (service : String) (raw : Request)
    (w : World σ) : Option (Outcome × World σ) :=
  if s.cancelled w then some (.error (.cancelled service 0), w)
  else
    let w := w.ask [.admits raw.method (p.admits raw.method)]
    if p.admits raw.method then s.turns p raw limit (.fresh service) w
    else some (s.bypass p service raw w)

end Setup

end Failover
