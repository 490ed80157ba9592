import Failover.Event
import Failover.Failure
import Failover.Log
import Failover.Policy.Context
import Failover.Request

/-!
# Journals — what has happened in a call

Everything a call does is entered in its journal, in order: choices and attempts, the questions
put to the policy with their answers, events, log lines, and the time it waited.  What can be seen
of a call is a view of its journal.
-/

namespace Failover

/-- A question put to a policy, with its answer. -/
inductive Question where
  | admits (method : Method) (answer : Bool)
  | enabled (answer : Bool)
  | allowsSame (context : Context) (answer : Bool)
  | allowsNext (context : Context) (answer : Bool)
  | retriesStatus (status : Status) (answer : Bool)
  | retriesFailure (kind : FailureKind) (answer : Bool)
  | delay (context : Context) (answer : Duration)
deriving DecidableEq

/-- What can happen in a call. -/
inductive Entry where
  /-- The balancer was asked for an instance. -/
  | chose (service : String) (choice : Option Instance)
  /-- A request was given to the balancer to be sent. -/
  | attempted (service : String) (target : Instance) (request : Request)
  /-- The call was handed to the balancer as a whole. -/
  | combined (service : String)
  | asked (question : Question)
  | emitted (event : Event)
  | logged (line : LogLine)
  /-- A wait was requested. -/
  | slept (delay : Duration)
  /-- Time has passed. -/
  | waited (time : Duration)
deriving DecidableEq

/-- The entries of a call, first to last. -/
@[ext]
structure Journal where
  entries : Array Entry
deriving DecidableEq

namespace Journal

/-- The journal of a call that has not begun. -/
def empty : Journal := ⟨#[]⟩

instance : Inhabited Journal := ⟨empty⟩

/-- The journal with one more entry. -/
def add (j : Journal) (e : Entry) : Journal := ⟨j.entries.push e⟩

/-- The entries as a list, on which proofs go by induction. -/
def toList (j : Journal) : List Entry := j.entries.toList

@[simp] theorem toList_empty : empty.toList = [] := rfl

@[simp] theorem toList_add {j : Journal} {e : Entry} : (j.add e).toList = j.toList ++ [e] := by
  simp [toList, add]

/-- The journal with more entries, first to last. -/
def addAll (j : Journal) (es : List Entry) : Journal := es.foldl add j

@[simp] theorem toList_addAll {j : Journal} {es : List Entry} :
    (j.addAll es).toList = j.toList ++ es := by
  induction es generalizing j with
  | nil => simp [addAll]
  | cons e es ih =>
    have : j.addAll (e :: es) = (j.add e).addAll es := rfl
    rw [this, ih, toList_add, List.append_assoc, List.singleton_append]

/-! ### Views -/

/-- The event of an entry that emits one. -/
def eventOf? : Entry → Option Event
  | .emitted e => some e
  | _ => none

/-- The line of an entry that logs one. -/
def lineOf? : Entry → Option LogLine
  | .logged l => some l
  | _ => none

/-- The question of an entry that asks one. -/
def questionOf? : Entry → Option Question
  | .asked q => some q
  | _ => none

/-- The delay of an entry that requests a wait. -/
def delayOf? : Entry → Option Duration
  | .slept d => some d
  | _ => none

/-- What the balancer offered, in an entry that asks it for an instance. -/
def choiceOf? : Entry → Option (Option Instance)
  | .chose _ c => some c
  | _ => none

/-- An attempt as service, instance and request. -/
def attemptOf? : Entry → Option (String × Instance × Request)
  | .attempted s i r => some (s, i, r)
  | _ => none

/-- The events of a call, in the order in which they were emitted. -/
def events (j : Journal) : List Event := j.toList.filterMap eventOf?

/-- The lines that a call logged. -/
def lines (j : Journal) : List LogLine := j.toList.filterMap lineOf?

/-- The questions that a call put to its policy. -/
def questions (j : Journal) : List Question := j.toList.filterMap questionOf?

/-- The waits that were requested. -/
def delays (j : Journal) : List Duration := j.toList.filterMap delayOf?

/-- The answers of the balancer when it was asked for an instance. -/
def choices (j : Journal) : List (Option Instance) := j.toList.filterMap choiceOf?

/-- The attempts of a call, each with the request that was sent. -/
def attempts (j : Journal) : List (String × Instance × Request) :=
  j.toList.filterMap attemptOf?

/-! ### Time -/

/-- The time that an entry takes. -/
def timeOf : Entry → Duration
  | .waited t => t
  | _ => .zero

/-- The time that has passed. -/
def elapsed (j : Journal) : Duration := j.entries.foldl (fun t e => t + timeOf e) .zero

/-- When the `n`-th attempt among the entries began, counted from a given time. -/
def attemptTimeFrom (now : Duration) : List Entry → (n : Nat) → Option Duration
  | [], _ => none
  | e :: es, n =>
    match e, n with
    | _, 0 => none
    | .attempted .., 1 => some now
    | .attempted .., n + 2 => attemptTimeFrom now es (n + 1)
    | e, n => attemptTimeFrom (now + timeOf e) es n

/-- When the `n`-th attempt began, if it has. -/
def attemptTime? (j : Journal) (n : Nat) : Option Duration := attemptTimeFrom .zero j.toList n

end Journal

end Failover
