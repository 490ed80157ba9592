import Failover.Call.Basic

/-!
# Calls — made once

The combined call of a balancer chooses an instance, binds the request as first attempt and sends
it, unless the balancer has a way of its own.  The plain client makes it and reports success.
-/

namespace Failover

namespace Setup

variable {σ : Type}

/-- Chooses, binds and sends, once. -/
def chooseAndSend (s : Setup σ) (w : World σ) (service : String) (raw : Request) :
    Outcome × World σ :=
  match s.choose w service with
  | (none, w) => (.error (.noInstanceAvailable service), w)
  | (some i, w) =>
    match s.pipeline.bind raw i 1 with
    | .error f => (.error (.connectivity service f), w.log (bindFailureLine i 1 f))
    | .ok r =>
      match s.executeOn w service i r with
      | (.ok response, w) => (.ok response, w)
      | (.error f, w) => (.error (.connectivity service f), w)

/-- The combined call: the balancer's own, if it has one. -/
def executeOnce (s : Setup σ) (w : World σ) (service : String) (raw : Request) :
    Outcome × World σ :=
  let w := w.add (.combined service)
  match s.balancer.combined with
  | none => s.chooseAndSend w service raw
  | some execute =>
    let (outcome, b) := execute service s.pipeline raw w.balancer
    (outcome, { w with balancer := b })

/-- The line that is logged when a plain call has ended well. -/
def plainCompletedLine (service : String) (response : Response) : LogLine :=
  ⟨.debug, .interceptor, "plain call completed",
    [("service", service), ("status", response.status.text)]⟩

/-- The call of a plain client.  Errors are passed on in silence. -/
def executePlain (s : Setup σ) (w : World σ) (service : String) (raw : Request) :
    Outcome × World σ :=
  match s.executeOnce w service raw with
  | (.error e, w) => (.error e, w)
  | (.ok response, w) =>
    let w := w.log (plainCompletedLine service response)
    (.ok response, s.emit w (.succeeded service 1 w.journal.elapsed))

end Setup

end Failover
