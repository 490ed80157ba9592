import Failover.Failure
import Failover.Request

/-!
# How a call can end without a usable response
-/

namespace Failover

/-- The last outcome before the attempts ran out: one that could have been retried. -/
inductive LastOutcome where
  | failure (failure : Failure)
  | response (response : Response)
deriving DecidableEq, Inhabited, Repr

/-- The outcome as it is quoted in messages; of a response only the status shows. -/
def LastOutcome.text : LastOutcome → String
  | .failure f => f.text
  | .response r => "retryable status " ++ r.status.text

/-- Why a call ended without a usable response. -/
inductive CallError where
  /-- The URI has no host that could name a service. -/
  | missingServiceName (uri : String)
  /-- The balancer had no instance to offer. -/
  | noInstanceAvailable (service : String)
  /-- A transport failure that was not retried. -/
  | connectivity (service : String) (failure : Failure)
  /-- Every attempt that was allowed has been made. -/
  | budgetExhausted (service : String) (attempts distinct : Nat) (last : LastOutcome)
  /-- The caller cancelled between two attempts. -/
  | cancelled (service : String) (attempts : Nat)
deriving DecidableEq, Inhabited, Repr

namespace CallError

/-- The message for the caller. -/
def text : CallError → String
  | .missingServiceName uri =>
    "request URI '" ++ uri ++ "' does not contain a valid service name"
  | .noInstanceAvailable service => "no instance available for service '" ++ service ++ "'"
  | .connectivity service failure =>
    "call to service '" ++ service ++ "' failed: " ++ failure.text
  | .budgetExhausted service attempts distinct last =>
    "retry budget exhausted for service '" ++ service ++ "' after " ++ toString attempts ++
      " attempts across " ++ toString distinct ++ " instances; last outcome: " ++ last.text
  | .cancelled service attempts =>
    "call to service '" ++ service ++ "' cancelled after " ++ toString attempts ++ " attempts"

/-- The service the call was addressed to, if its name was known. -/
def service? : CallError → Option String
  | .missingServiceName _ => none
  | .noInstanceAvailable s => some s
  | .connectivity s _ => some s
  | .budgetExhausted s _ _ _ => some s
  | .cancelled s _ => some s

/-- The transport failure behind the error: the one propagated, or the last before the attempts
ran out. -/
def failure? : CallError → Option Failure
  | .connectivity _ f => some f
  | .budgetExhausted _ _ _ (.failure f) => some f
  | _ => none

/-- The failure that the error wraps, and not only mentions. -/
def source? : CallError → Option Failure
  | .connectivity _ f => some f
  | _ => none

/-- Attempts and distinct instances of a call whose attempts ran out. -/
def exhausted? : CallError → Option (Nat × Nat)
  | .budgetExhausted _ attempts distinct _ => some (attempts, distinct)
  | _ => none

/-- The response with which the attempts ran out. -/
def lastResponse? : CallError → Option Response
  | .budgetExhausted _ _ _ (.response r) => some r
  | _ => none

/-- Whether the balancer had nothing to offer. -/
def isNoInstance : CallError → Bool
  | .noInstanceAvailable _ => true
  | _ => false

/-- Whether the attempts ran out. -/
def isExhausted : CallError → Bool
  | .budgetExhausted _ _ _ _ => true
  | _ => false

/-- Whether the call was cancelled. -/
def isCancelled : CallError → Bool
  | .cancelled _ _ => true
  | _ => false

end CallError

/-- How a call ends. -/
abbrev Outcome := Except CallError Response

end Failover
