import Failover.Log
import Failover.Ordered.Map
import Failover.Ordered.Set

/-!
# Rebinding — resets by name, and their failures

A rebinder keeps a reset under each managed name and runs it when it is asked to.  A failure is
recorded under the name and stops no other reset; recorded failures are forgotten only when a full
rebind begins.

Resets are values of a type `ρ`, and a behaviour says what running one does to the site: the
rebinder itself, and the state `σ` that resets read and write.  A behaviour may rebind names in
turn; the depth of such nesting is bounded.  Resets that leave the rebinder alone are functions of
the state; one of them loads the value that is bound to a name.

* `PlainReset`: the resets that leave the rebinder alone.
* `rebind`: one name.
* `rebindAll`: every managed name, in ascending order.
* `onEnvironmentChange`: every managed name, if the change concerns this rebinder.
-/

namespace Failover

/-- Why the rebinding of a name failed. -/
inductive RebindError where
  | failed (name message : String)
  | crashed (name : String)
deriving DecidableEq, Inhabited, Repr

namespace RebindError

/-- The message of a failure, as it is recorded and logged. -/
def text : RebindError → String
  | .failed name message => "cannot rebind '" ++ name ++ "': " ++ message
  | .crashed name => "cannot rebind '" ++ name ++ "': reset panicked"

/-- The name under which the failure is recorded. -/
def name : RebindError → String
  | .failed name _ => name
  | .crashed name => name

end RebindError

/-- How a reset can end. -/
inductive ResetResult where
  | done
  | failed (message : String)
  | crashed
deriving DecidableEq, Inhabited, Repr

/-- What a reset's end leaves to be recorded under its name. -/
def ResetResult.error? (name : String) : ResetResult → Option RebindError
  | .done => none
  | .failed message => some (.failed name message)
  | .crashed => some (.crashed name)

/-- Resets of type `ρ` by name, and the failures recorded since the last full rebind began. -/
structure Rebinder (ρ : Type) where
  contextId : String
  targets : OrderedMap String ρ
  errors : OrderedMap String RebindError

/-- A rebinder with the state that its resets share, and the lines logged so far. -/
structure Site (ρ σ : Type) where
  rebinder : Rebinder ρ
  state : σ
  lines : Array LogLine

/-- What running a reset does, given a way to rebind a name from within. -/
abbrev Behaviour (ρ σ : Type) :=
  (rebind : String → Site ρ σ → Bool × Site ρ σ) → ρ → Site ρ σ → ResetResult × Site ρ σ

/-! ### Resets that leave the rebinder alone -/

/-- A reset that leaves the rebinder alone. -/
structure PlainReset (σ : Type) where
  /-- How the reset ends, the state that it leaves, and the lines that it logs. -/
  effect : σ → ResetResult × σ × List LogLine

/-- How the loading of a value ends. -/
inductive Loading (τ : Type) where
  | loaded (value : τ)
  | failed (message : String)
  | crashed

namespace PlainReset

variable {ρ σ τ : Type}

/-- The reset of a bound value: it loads the value and puts it in the place of the one before.  A
value that cannot be loaded is not put. -/
def bound (put : τ → σ → σ) (load : σ → Loading τ × σ × List LogLine) : PlainReset σ where
  effect state :=
    match load state with
    | (.loaded value, state, lines) => (.done, put value state, lines)
    | (.failed message, state, lines) => (.failed message, state, lines)
    | (.crashed, state, lines) => (.crashed, state, lines)

/-- Runs the reset at a site. -/
def run (reset : PlainReset σ) (s : Site ρ σ) : ResetResult × Site ρ σ :=
  let (result, state, lines) := reset.effect s.state
  (result, { s with state := state, lines := s.lines ++ lines })

end PlainReset

/-- The behaviour of resets that leave the rebinder alone. -/
def Behaviour.plain {σ : Type} : Behaviour (PlainReset σ) σ := fun _ reset s => reset.run s

/-- The rebinder of a context that manages no name yet. -/
def Rebinder.ofContext {ρ : Type} (contextId : String) : Rebinder ρ := ⟨contextId, .empty, .empty⟩

/-- The managed names, ascending. -/
def Rebinder.names {ρ : Type} (r : Rebinder ρ) : List String := r.targets.keys

namespace Site

variable {ρ σ : Type}

/-- Logs a line. -/
def log (s : Site ρ σ) (l : LogLine) : Site ρ σ := { s with lines := s.lines.push l }

/-- Puts a reset under a name, without a word. -/
def setTarget (s : Site ρ σ) (name : String) (target : ρ) : Site ρ σ :=
  { s with rebinder := { s.rebinder with targets := s.rebinder.targets.insert name target } }

/-- Records a failure under a name, in the stead of an earlier one. -/
def setError (s : Site ρ σ) (name : String) (e : RebindError) : Site ρ σ :=
  { s with rebinder := { s.rebinder with errors := s.rebinder.errors.insert name e } }

/-- Forgets all recorded failures. -/
def clearErrors (s : Site ρ σ) : Site ρ σ :=
  { s with rebinder := { s.rebinder with errors := .empty } }

/-! ### Log lines -/

/-- The line of a registration that replaces another. -/
def replacedLine (name : String) : LogLine :=
  ⟨.warn, .rebind, "rebind target replaced; last registration wins", [("name", name)]⟩

/-- The line of a rebind under a name without a reset. -/
def unmanagedLine (name : String) : LogLine :=
  ⟨.debug, .rebind, "not a managed name", [("name", name)]⟩

/-- The line of a reset that failed. -/
def failedLine (name : String) (e : RebindError) : LogLine :=
  ⟨.warn, .rebind, "rebind failed", [("name", name), ("error", e.text)]⟩

/-- The line of a change that does not concern the rebinder. -/
def ignoredLine (source : String) : LogLine :=
  ⟨.debug, .rebind, "ignoring change from another context", [("source", source)]⟩

/-- The line of a change that leads to a full rebind, with the number of its keys. -/
def changedLine (keys : Nat) : LogLine :=
  ⟨.info, .rebind, "environment changed; rebinding", [("keys", toString keys)]⟩

/-! ### Operations -/

/-- Manages a reset under a name; one that was there is replaced. -/
def register (s : Site ρ σ) (name : String) (target : ρ) : Site ρ σ :=
  let replaced := s.rebinder.targets.contains name
  let s := s.setTarget name target
  if replaced then s.log (replacedLine name) else s

/-- Manages a value under a name: a rebind of the name loads the value anew. -/
def registerBound {τ : Type} (s : Site (PlainReset σ) σ) (name : String) (put : τ → σ → σ)
    (load : σ → Loading τ × σ × List LogLine) : Site (PlainReset σ) σ :=
  s.register name (.bound put load)

/-- Runs the reset under a name, and says whether it was there and succeeded. -/
def rebind (behaviour : Behaviour ρ σ) : (depth : Nat) → String → Site ρ σ → Bool × Site ρ σ
  | 0, _, s => (false, s)
  | depth + 1, name, s =>
    match s.rebinder.targets.get? name with
    | none => (false, s.log (unmanagedLine name))
    | some target =>
      let (result, s) := behaviour (rebind behaviour depth) target s
      match result.error? name with
      | none => (true, s)
      | some e => (false, (s.log (failedLine name e)).setError name e)

/-- The deepest nesting of rebinds that is followed. -/
def maxDepth : Nat := Nat.pow 2 32

/-- Rebinds names one after the other. -/
def rebindEach (behaviour : Behaviour ρ σ) (names : List String) (s : Site ρ σ) : Site ρ σ :=
  names.foldl (fun s name => (rebind behaviour maxDepth name s).2) s

/-- Forgets the recorded failures and rebinds every name that is managed at this moment. -/
def rebindAll (behaviour : Behaviour ρ σ) (s : Site ρ σ) : Site ρ σ :=
  rebindEach behaviour s.rebinder.names s.clearErrors

/-- Whether a change concerns a rebinder: it comes from its context, or its keys are the name of
its source and nothing else. -/
def concerns (r : Rebinder ρ) (source : String) (keys : OrderedSet String) : Bool :=
  source == r.contextId || keys.toList == [source]

/-- Rebinds everything if a change concerns the rebinder, and says whether it did. -/
def onEnvironmentChange (behaviour : Behaviour ρ σ) (source : String) (keys : OrderedSet String)
    (s : Site ρ σ) : Bool × Site ρ σ :=
  if concerns s.rebinder source keys then
    (true, rebindAll behaviour (s.log (changedLine keys.toList.length)))
  else (false, s.log (ignoredLine source))

end Site

end Failover
