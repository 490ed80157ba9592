import Failover.Duration

/-!
# Events — what a call reports while it runs

Attempts that fail on the way do not show in a call's result; they are reported as events.
-/

namespace Failover

/-- Why a call was made without the chance of a retry. -/
inductive BypassReason where
  /-- Retries are switched off for the service. -/
  | retryDisabled
  /-- Retries are on, but the method is not safe to repeat. -/
  | unsafeMethod
deriving DecidableEq, Inhabited, Repr

/-- The reason as it stands in the text of an event. -/
def BypassReason.text : BypassReason → String
  | .retryDisabled => "retry disabled"
  | .unsafeMethod => "unsafe method"

/-- What a call reports. -/
inductive Event where
  /-- An instance was chosen for the next attempts. -/
  | instanceSelected (service instanceId : String) (distinct : Nat)
  /-- An attempt ended in a way that can be retried. -/
  | attemptFailed (service instanceId : String) (attempt : Nat) (reason : String)
  /-- Another attempt follows after the delay. -/
  | retryScheduled (service : String) (sameInstance : Bool) (delay : Duration)
  /-- The call ended with a usable response. -/
  | succeeded (service : String) (attempts : Nat) (elapsed : Duration)
  /-- Every attempt that was allowed has been made. -/
  | exhausted (service : String) (attempts distinct : Nat) (elapsed : Duration)
  /-- The call was made once, without the chance of a retry. -/
  | bypassed (service method : String) (reason : BypassReason)
deriving DecidableEq, Inhabited, Repr

namespace Event

/-- The kinds of events. -/
inductive Kind where
  | instanceSelected | attemptFailed | retryScheduled | succeeded | exhausted | bypassed
deriving DecidableEq, Inhabited, Repr

/-- Every kind of event. -/
def Kind.all : List Kind :=
  [.instanceSelected, .attemptFailed, .retryScheduled, .succeeded, .exhausted, .bypassed]

/-- The name of a kind, as it stands in the text of an event. -/
def Kind.name : Kind → String
  | .instanceSelected => "InstanceSelected"
  | .attemptFailed => "AttemptFailed"
  | .retryScheduled => "RetryScheduled"
  | .succeeded => "Succeeded"
  | .exhausted => "Exhausted"
  | .bypassed => "Bypassed"

/-- The kind of an event. -/
def kind : Event → Kind
  | .instanceSelected .. => .instanceSelected
  | .attemptFailed .. => .attemptFailed
  | .retryScheduled .. => .retryScheduled
  | .succeeded .. => .succeeded
  | .exhausted .. => .exhausted
  | .bypassed .. => .bypassed

/-- What an event says, without the name of its kind. -/
def details : Event → String
  | .instanceSelected service id distinct =>
    service ++ " -> " ++ id ++ ", distinct=" ++ toString distinct
  | .attemptFailed service id attempt reason =>
    service ++ " @ " ++ id ++ ", #" ++ toString attempt ++ ", " ++ reason
  | .retryScheduled service sameInstance delay =>
    service ++ (if sameInstance then ", same, delay=" else ", next, delay=") ++ delay.text
  | .succeeded service attempts elapsed =>
    service ++ ", attempts=" ++ toString attempts ++ ", elapsed=" ++ elapsed.text
  | .exhausted service attempts distinct elapsed =>
    service ++ ", attempts=" ++ toString attempts ++ ", distinct=" ++ toString distinct ++
      ", elapsed=" ++ elapsed.text
  | .bypassed service method reason => service ++ ", " ++ method ++ ", " ++ reason.text

/-- An event on one line: its kind, and what it says in parentheses. -/
def text (e : Event) : String := e.kind.name ++ "(" ++ e.details ++ ")"

end Event

end Failover
