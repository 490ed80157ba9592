import Failover.Config.Reader
import Failover.Policy.Registry
import Failover.Rebind.Basic

/-!
# Rebinding — resets that follow a description

The resets of a rehearsal are data: a list of actions to take in turn, the reload of a
configuration value from a source, or the publication of such a value in a registry of policies.
-/

namespace Failover

/-- What a scripted reset does when it is run. -/
inductive Action where
  | succeed
  | fail (message : String)
  | crash
  /-- Manages a reset under a name that only counts its runs. -/
  | register (name : String)
  /-- Rebinds a name from within. -/
  | rebind (name : String)
  /-- Notes the names with a recorded failure. -/
  | readErrors
deriving DecidableEq, Inhabited, Repr

/-- A reset as data. -/
inductive Reset where
  /-- Counts a run and takes the first action; the last one is repeated. -/
  | scripted (name : String) (actions : List Action)
  /-- Reloads a configuration value from a source. -/
  | reload (handle source : String)
  /-- Registers a policy for every service of a configuration value. -/
  | publish (handle : String)
deriving DecidableEq, Inhabited, Repr

/-- What a reset noted while it ran. -/
inductive Note where
  | rebound (name other : String) (result : Bool)
  | errors (name : String) (keys : List String)
deriving DecidableEq, Inhabited, Repr

/-- What the resets of a rehearsal read and write. -/
structure Rehearsal where
  /-- How often the scripted resets were run, by name. -/
  hits : OrderedMap String Nat
  notes : Array Note
  /-- The texts of the sources. -/
  sources : OrderedMap String String
  /-- The values of the handles. -/
  handles : OrderedMap String Properties
  registry : Registry

namespace Rehearsal

/-- The rehearsal before anything was set. -/
def empty : Rehearsal := ⟨.empty, #[], .empty, .empty, .ofFallback .never⟩

instance : Inhabited Rehearsal := ⟨empty⟩

/-- The value of a handle; one that was never set holds the default. -/
def handle (r : Rehearsal) (name : String) : Properties := (r.handles.get? name).getD .default

/-- Puts a value in a handle. -/
def setHandle (r : Rehearsal) (name : String) (p : Properties) : Rehearsal :=
  { r with handles := r.handles.insert name p }

/-- Puts a text in a source. -/
def setSource (r : Rehearsal) (name text : String) : Rehearsal :=
  { r with sources := r.sources.insert name text }

/-- Counts one more run under a name. -/
def countHit (r : Rehearsal) (name : String) : Rehearsal :=
  { r with hits := r.hits.insert name ((r.hits.get? name).getD 0 + 1) }

/-- Adds a note behind the others. -/
def note (r : Rehearsal) (n : Note) : Rehearsal := { r with notes := r.notes.push n }

/-- Loads the value that a source describes. -/
def loadSource (r : Rehearsal) (source : String) : Loading Properties :=
  match r.sources.get? source with
  | none => .failed "no such source"
  | some text =>
    match Properties.load text with
    | .error e => .failed e.text
    | .ok p => .loaded p

/-- The reset that loads the value of a handle from a source. -/
def reload (handle source : String) : PlainReset Rehearsal :=
  .bound (fun p r => r.setHandle handle p) fun r => (r.loadSource source, r, [])

/-- Registers policies, first to last, with the lines that are logged on the way; the first fault
ends it. -/
def publishAll :
    List (String × RetryConfig) → Registry → Option ConfigError × Registry × List LogLine
  | [], r => (none, r, [])
  | (service, config) :: entries, r =>
    match Policy.ofConfig? config none with
    | .error e => (some e, r, [])
    | .ok p =>
      let (fault, r', lines) := publishAll entries (r.register service p)
      (fault, r', r.replacementLog service ++ lines)

/-- The reset that registers a policy for every service of a handle's value. -/
def publish (handle : String) : PlainReset Rehearsal where
  effect r :=
    let (fault, registry, lines) := publishAll (r.handle handle).services.entries r.registry
    let result := match fault with
      | some e => .failed e.text
      | none => .done
    (result, { r with registry := registry }, lines)

end Rehearsal

namespace Reset

/-- The reset that is left when a script's first action has been taken. -/
def afterFirst : List Action → List Action
  | [] => []
  | [a] => [a]
  | _ :: as => as

/-- Takes an action of the script under a name. -/
def take (rebind : String → Site Reset Rehearsal → Bool × Site Reset Rehearsal) (name : String)
    (action : Action) (s : Site Reset Rehearsal) : ResetResult × Site Reset Rehearsal :=
  match action with
  | .succeed => (.done, s)
  | .fail message => (.failed message, s)
  | .crash => (.crashed, s)
  | .register other => (.done, s.register other (.scripted other []))
  | .rebind other =>
    let (result, s) := rebind other s
    (.done, { s with state := s.state.note (.rebound name other result) })
  | .readErrors =>
    (.done, { s with state := s.state.note (.errors name s.rebinder.errors.keys) })

/-- What running a described reset does. -/
def behaviour : Behaviour Reset Rehearsal := fun rebind target s =>
  match target with
  | .scripted name actions =>
    let s := { s with state := s.state.countHit name }
    -- The script moves on first, so that a rebind of its own name takes the action after this one.
    let s := s.setTarget name (.scripted name (afterFirst actions))
    take rebind name (actions.head?.getD .succeed) s
  | .reload handle source => (Rehearsal.reload handle source).run s
  | .publish handle => (Rehearsal.publish handle).run s

end Reset

end Failover
