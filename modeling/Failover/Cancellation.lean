import Failover.Journal
import Failover.Sink

/-!
# Cancellation — when a call's token fires

The token of a call fires at a moment of the call, so whether it has fired can be read off the
journal.  A trigger names such a moment.
-/

namespace Failover

/-- A token that a call looks at. -/
structure Cancellation where
  /-- Whether the token has fired, after what has happened so far. -/
  fired : Journal → Bool
  /-- How far into a wait the token fires, if it does so before the wait is over. -/
  during : Journal → Duration → Option Duration

/-- A moment at which a token fires. -/
inductive Trigger where
  | never
  /-- Before the call. -/
  | before
  /-- Inside the `n`-th attempt. -/
  | atAttempt (n : Nat)
  /-- Some time after the start of the `n`-th attempt. -/
  | afterAttempt (n : Nat) (time : Duration)
  /-- When an instance is asked for the `n`-th time. -/
  | atChoice (n : Nat)
  /-- When a wait is requested for the `n`-th time. -/
  | atSleep (n : Nat)
  /-- When the `n`-th event of a kind reaches the sink. -/
  | atEvent (kind : Event.Kind) (n : Nat)
deriving DecidableEq, Inhabited, Repr

namespace Trigger

/-- The entries that a trigger counts. -/
def counts (sink : Sink) : Trigger → Entry → Bool
  | .atAttempt _, .attempted .. => true
  | .atChoice _, .chose .. => true
  | .atSleep _, .slept _ => true
  | .atEvent kind _, .emitted e => sink.receives && e.kind = kind
  | _, _ => false

/-- Whether `n` counted entries, at least one, are in the journal. -/
def reached (sink : Sink) (t : Trigger) (n : Nat) (j : Journal) : Bool :=
  0 < n && n ≤ j.entries.countP (t.counts sink)

/-- Whether the moment has come. -/
def fired (sink : Sink) (t : Trigger) (j : Journal) : Bool :=
  match t with
  | .never => false
  | .before => true
  | .atAttempt n => t.reached sink n j
  | .atChoice n => t.reached sink n j
  | .atSleep n => t.reached sink n j
  | .atEvent _ n => t.reached sink n j
  | .afterAttempt n time =>
    match j.attemptTime? n with
    | some start => start + time < j.elapsed
    | none => false

/-- How far into a wait the moment comes. -/
def during (t : Trigger) (j : Journal) (delay : Duration) : Option Duration :=
  match t with
  | .afterAttempt n time =>
    match j.attemptTime? n with
    | some start =>
      if start + time < j.elapsed + delay then
        some ⟨(start + time).nanos - j.elapsed.nanos⟩
      else none
    | none => none
  | _ => none

/-- The token that fires at the moment. -/
def cancellation (sink : Sink) (t : Trigger) : Cancellation := ⟨t.fired sink, t.during⟩

end Trigger

end Failover
