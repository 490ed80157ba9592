import Failover.Proofs.Lists
import Failover.Rebind.Basic
import Mathlib.Data.List.Induction
import Mathlib.Data.List.Sort

/-!
# Rebinding — the recorded failures as a function of history

The failures that a rebinder has recorded are told by what happened to it: a name has the latest of
its failures since the last full rebind began, and nothing else has a failure.  The resets are any
that leave the rebinder alone; each of them may end otherwise every time it is run.

* `Operation`, `Chronicle`: what is done to a rebinder, and what happens then.
* `FailedLast`: the latest failure of a name since the last full rebind began.
* `Site.Tracks.perform`: one operation.
* `Site.performAll_recalls`: any number of them.
-/

namespace Failover

/-! ### Operations -/

/-- What can be done to a rebinder.  Between its operations the state that resets read may
change. -/
inductive Operation (σ : Type) where
  | register (name : String) (reset : PlainReset σ)
  | registerBound {τ : Type} (name : String) (put : τ → σ → σ)
      (load : σ → Loading τ × σ × List LogLine)
  | rebind (name : String)
  | rebindAll
  | environmentChange (source : String) (keys : OrderedSet String)
  | meanwhile (change : σ → σ)

namespace Site

variable {σ : Type}

/-- The site of a new rebinder. -/
def start (context : String) (state : σ) : Site (PlainReset σ) σ := ⟨.ofContext context, state, #[]⟩

/-- Performs an operation.  What it answers is not looked at here. -/
def perform (s : Site (PlainReset σ) σ) : Operation σ → Site (PlainReset σ) σ
  | .register name reset => s.register name reset
  | .registerBound name put load => s.registerBound name put load
  | .rebind name => (s.rebind .plain maxDepth name).2
  | .rebindAll => s.rebindAll .plain
  | .environmentChange source keys => (s.onEnvironmentChange .plain source keys).2
  | .meanwhile change => { s with state := change s.state }

/-- Performs operations one after the other. -/
def performAll (s : Site (PlainReset σ) σ) (ops : List (Operation σ)) : Site (PlainReset σ) σ :=
  ops.foldl perform s

end Site

/-! ### What happens -/

/-- What a chronicle tells of. -/
inductive Happening (σ : Type) where
  | registered (name : String) (reset : PlainReset σ)
  /-- A full rebind begins. -/
  | began
  /-- The reset of a name was run. -/
  | ended (name : String) (result : ResetResult)

/-- The reset that is registered under a name. -/
def Happening.reset? {σ : Type} (name : String) : Happening σ → Option (PlainReset σ)
  | .registered other reset => if other = name then some reset else none
  | _ => none

/-- The name that something is registered under. -/
def Happening.registeredName? {σ : Type} : Happening σ → Option String
  | .registered name _ => some name
  | _ => none

/-- The history of a rebinder, with the state that its resets read. -/
structure Chronicle (σ : Type) where
  context : String
  happenings : List (Happening σ)
  state : σ

namespace Chronicle

variable {σ : Type}

/-- The reset that was registered last under a name. -/
def current? (c : Chronicle σ) (name : String) : Option (PlainReset σ) :=
  (c.happenings.filterMap (Happening.reset? name)).getLast?

/-- The names that a reset was registered under. -/
def managed (c : Chronicle σ) : OrderedSet String :=
  .ofList (c.happenings.filterMap Happening.registeredName?)

/-- Whether a change comes from the context, or has the name of its source for its only key. -/
def Concerned (c : Chronicle σ) (source : String) (keys : OrderedSet String) : Prop :=
  source = c.context ∨ keys = .ofList [source]

instance (c : Chronicle σ) (source : String) (keys : OrderedSet String) :
    Decidable (c.Concerned source keys) :=
  inferInstanceAs (Decidable (_ ∨ _))

/-- The chronicle with one more happening. -/
def tell (c : Chronicle σ) (x : Happening σ) : Chronicle σ :=
  { c with happenings := c.happenings ++ [x] }

/-- Runs a reset under a name. -/
def run (c : Chronicle σ) (name : String) (reset : PlainReset σ) : Chronicle σ :=
  { c.tell (.ended name (reset.effect c.state).1) with state := (reset.effect c.state).2.1 }

/-- Runs the reset that is current under a name. -/
def rebind (c : Chronicle σ) (name : String) : Chronicle σ :=
  (c.current? name).elim c (c.run name)

/-- Runs the current resets of all managed names, in ascending order. -/
def rebindAll (c : Chronicle σ) : Chronicle σ :=
  c.managed.toList.foldl rebind (c.tell .began)

/-- The chronicle after an operation.  A change that does not concern the rebinder is not told. -/
def perform (c : Chronicle σ) : Operation σ → Chronicle σ
  | .register name reset => c.tell (.registered name reset)
  | .registerBound name put load => c.tell (.registered name (.bound put load))
  | .rebind name => c.rebind name
  | .rebindAll => c.rebindAll
  | .environmentChange source keys => if c.Concerned source keys then c.rebindAll else c
  | .meanwhile change => { c with state := change c.state }

/-- The chronicle after operations, first to last. -/
def performAll (c : Chronicle σ) (ops : List (Operation σ)) : Chronicle σ := ops.foldl perform c

/-- The chronicle of a new rebinder. -/
def start (context : String) (state : σ) : Chronicle σ := ⟨context, [], state⟩

end Chronicle

/-! ### The latest failure -/

/-- The failure of a reset that was run under a name. -/
inductive Happening.Fails {σ : Type} (name : String) : RebindError → Happening σ → Prop where
  | failed {message : String} : Fails name (.failed name message) (.ended name (.failed message))
  | crashed : Fails name (.crashed name) (.ended name .crashed)

/-- A name failed so, and since then it has not failed again and no full rebind has begun. -/
def FailedLast {σ : Type} (happenings : List (Happening σ)) (name : String) (e : RebindError) :
    Prop :=
  ∃ before x after, happenings = before ++ x :: after ∧ x.Fails name e ∧
    ∀ y ∈ after, y ≠ .began ∧ ∀ e', ¬ y.Fails name e'

variable {σ : Type} {h : List (Happening σ)} {name other : String} {e : RebindError}
  {result : ResetResult} {reset : PlainReset σ}

theorem Happening.fails_ended_iff :
    (Happening.ended other result : Happening σ).Fails name e ↔
      other = name ∧ result.error? name = some e := by
  constructor
  · rintro (_ | _) <;> exact ⟨rfl, rfl⟩
  · rintro ⟨rfl, error⟩
    cases result with
    | done => cases error
    | failed message => cases error; exact .failed
    | crashed => cases error; exact .crashed

namespace FailedLast

theorem not_nil : ¬ FailedLast ([] : List (Happening σ)) name e := by
  rintro ⟨before, x, after, split, -⟩
  simp at split

/-- The last happening is the latest failure, or it leaves the one before. -/
theorem concat_iff {x : Happening σ} :
    FailedLast (h ++ [x]) name e ↔
      x.Fails name e ∨ FailedLast h name e ∧ x ≠ .began ∧ ∀ e', ¬ x.Fails name e' := by
  constructor
  · rintro ⟨before, y, after, split, fails, later⟩
    rcases split_concat split with ⟨-, rfl, -⟩ | ⟨between, rfl, rfl⟩
    · exact .inl fails
    · exact .inr ⟨⟨before, y, between, rfl, fails, fun z hz => later z (by simp [hz])⟩,
        later x (by simp)⟩
  · rintro (fails | ⟨⟨before, y, after, rfl, fails, later⟩, spared⟩)
    · exact ⟨h, x, [], rfl, fails, by simp⟩
    · refine ⟨before, y, after ++ [x], by simp, fails, fun z hz => ?_⟩
      rcases List.mem_append.mp hz with old | new
      · exact later z old
      · rw [List.mem_singleton.mp new]
        exact spared

/-- A registration forgets no failure. -/
theorem concat_registered_iff :
    FailedLast (h ++ [.registered other reset]) name e ↔ FailedLast h name e := by
  rw [concat_iff]
  exact ⟨fun | .inr failed => failed.1, fun failed => .inr ⟨failed, nofun, nofun⟩⟩

/-- The beginning of a full rebind forgets them all. -/
theorem not_concat_began : ¬ FailedLast (h ++ [.began]) name e := by
  rw [concat_iff]
  rintro (fails | ⟨-, began, -⟩)
  · cases fails
  · exact began rfl

/-- A run that does not fail, or that is of another name, leaves the failure before. -/
theorem concat_ended_iff (spared : other = name → result = .done) :
    FailedLast (h ++ [.ended other result]) name e ↔ FailedLast h name e := by
  have fine : ∀ e', ¬ (Happening.ended other result : Happening σ).Fails name e' := by
    intro e' fails
    obtain ⟨same, error⟩ := Happening.fails_ended_iff.mp fails
    rw [spared same] at error
    cases error
  rw [concat_iff]
  constructor
  · rintro (fails | ⟨failed, -⟩)
    · exact absurd fails (fine e)
    · exact failed
  · exact fun failed => .inr ⟨failed, nofun, fine⟩

/-- A failure takes the place of an earlier one. -/
theorem concat_failed_iff {e' : RebindError} (error : result.error? name = some e') :
    FailedLast (h ++ [.ended name result]) name e ↔ e' = e := by
  have fails : (Happening.ended name result : Happening σ).Fails name e' :=
    Happening.fails_ended_iff.mpr ⟨rfl, error⟩
  rw [concat_iff, Happening.fails_ended_iff, error]
  constructor
  · rintro (⟨-, same⟩ | ⟨-, -, fine⟩)
    · exact Option.some.inj same
    · exact absurd fails (fine e')
  · rintro rfl
    exact .inl ⟨rfl, rfl⟩

end FailedLast

/-! ### Looking into a chronicle -/

theorem Happening.registeredName?_eq_some_iff {x : Happening σ} :
    x.registeredName? = some name ↔ (x.reset? name).isSome = true := by
  cases x with
  | registered other reset => by_cases same : other = name <;> simp [registeredName?, reset?, same]
  | began | ended => simp [registeredName?, reset?]

namespace Chronicle

variable {c : Chronicle σ} {x : Happening σ}

theorem current?_tell : (c.tell x).current? name = (x.reset? name).or (c.current? name) := by
  rw [current?, tell, List.filterMap_append, List.getLast?_append]
  cases h : x.reset? name <;> simp [current?, h]

theorem current?_tell_of_none (h : x.reset? name = none) :
    (c.tell x).current? name = c.current? name := by
  rw [current?_tell, h, Option.none_or]

/-- A name is managed if it has a current reset. -/
theorem mem_managed_iff : name ∈ c.managed ↔ (c.current? name).isSome = true := by
  rw [managed, OrderedSet.mem_ofList, List.mem_filterMap, current?, List.getLast?_isSome, Ne,
    List.filterMap_eq_nil_iff]
  simp only [Happening.registeredName?_eq_some_iff, Option.isSome_iff_ne_none, not_forall,
    exists_prop, ne_eq]

end Chronicle

/-! ### One rebind -/

theorem ResetResult.error?_eq_none_iff : result.error? name = none ↔ result = .done := by
  cases result <;> simp [error?]

namespace Site

variable {s s' : Site (PlainReset σ) σ} {c : Chronicle σ}

theorem maxDepth_eq : maxDepth = maxDepth - 1 + 1 := rfl

/-- A name that is not managed is only logged. -/
theorem rebind_of_none (unmanaged : s.rebinder.targets.get? name = none) :
    s.rebind .plain maxDepth name = (false, s.log (unmanagedLine name)) := by
  rw [maxDepth_eq, Site.rebind, unmanaged]

/-- A reset that succeeds records nothing. -/
theorem rebind_of_done (target : s.rebinder.targets.get? name = some reset)
    (done : (reset.run s).1.error? name = none) :
    s.rebind .plain maxDepth name = (true, (reset.run s).2) := by
  rw [maxDepth_eq, Site.rebind, target]
  simp only [Behaviour.plain, done]

/-- One that fails is logged and recorded. -/
theorem rebind_of_failed (target : s.rebinder.targets.get? name = some reset)
    (failed : (reset.run s).1.error? name = some e) :
    s.rebind .plain maxDepth name =
      (false, ((reset.run s).2.log (failedLine name e)).setError name e) := by
  rw [maxDepth_eq, Site.rebind, target]
  simp only [Behaviour.plain, failed]

/-- How a site stands to its history. -/
structure Tracks (c : Chronicle σ) (s : Site (PlainReset σ) σ) : Prop where
  context : s.rebinder.contextId = c.context
  state : s.state = c.state
  targets : ∀ name, s.rebinder.targets.get? name = c.current? name
  errors : ∀ name e, s.rebinder.errors.get? name = some e ↔ FailedLast c.happenings name e
  managed : ∀ name, s.rebinder.errors.contains name = true →
    s.rebinder.targets.contains name = true

namespace Tracks

/-- What is logged is of no matter. -/
theorem congr (t : Tracks c s) (rebinder : s'.rebinder = s.rebinder) (state : s'.state = s.state) :
    Tracks c s' where
  context := by rw [rebinder, t.context]
  state := by rw [state, t.state]
  targets := by rw [rebinder]; exact t.targets
  errors := by rw [rebinder]; exact t.errors
  managed := by rw [rebinder]; exact t.managed

theorem start {context : String} {state : σ} :
    Tracks (.start context state) (Site.start context state) where
  context := rfl
  state := rfl
  targets _ := rfl
  errors _ _ := ⟨nofun, fun failed => absurd failed FailedLast.not_nil⟩
  managed _ := nofun

theorem setTarget (t : Tracks c s) :
    Tracks (c.tell (.registered name reset)) (s.setTarget name reset) where
  context := t.context
  state := t.state
  targets n := by
    rw [Chronicle.current?_tell, ← t.targets n, Site.setTarget, OrderedMap.get?_insert]
    by_cases same : n = name
    · simp [Happening.reset?, same]
    · simp [Happening.reset?, same, Ne.symm same]
  errors n e := (t.errors n e).trans FailedLast.concat_registered_iff.symm
  managed n failed := by
    rw [Site.setTarget, OrderedMap.contains_insert, t.managed n failed, Bool.or_true]

/-- A registration is tracked. -/
theorem register (t : Tracks c s) :
    Tracks (c.tell (.registered name reset)) (s.register name reset) := by
  have set : Tracks _ (s.setTarget name reset) := t.setTarget
  rw [Site.register]
  split
  · exact set.congr rfl rfl
  · exact set

/-- The reset of a managed name was run and did not fail. -/
theorem done (t : Tracks c s) (h : (reset.effect s.state).1 = .done) :
    Tracks (c.run name reset) (reset.run s).2 where
  context := t.context
  state := by rw [Chronicle.run, ← t.state]; rfl
  targets n := (t.targets n).trans (Chronicle.current?_tell_of_none rfl).symm
  errors n e := (t.errors n e).trans
    (FailedLast.concat_ended_iff fun _ => by rw [← t.state, h]).symm
  managed := t.managed

theorem failed (t : Tracks c s) (target : s.rebinder.targets.get? name = some reset)
    (h : (reset.effect s.state).1.error? name = some e) :
    Tracks (c.run name reset) ((reset.run s).2.setError name e) where
  context := t.context
  state := by rw [Chronicle.run, ← t.state]; rfl
  targets n := (t.targets n).trans (Chronicle.current?_tell_of_none rfl).symm
  errors n e' := by
    rw [Site.setError, OrderedMap.get?_insert]
    by_cases same : n = name
    · subst same
      rw [if_pos rfl, Option.some_inj]
      exact (FailedLast.concat_failed_iff (by rwa [← t.state])).symm
    · have spared : name = n → (reset.effect c.state).1 = .done :=
        fun same' => absurd same'.symm same
      rw [if_neg same]
      exact (t.errors n e').trans (FailedLast.concat_ended_iff spared).symm
  managed n := by
    rw [Site.setError, OrderedMap.contains_insert, Bool.or_eq_true, decide_eq_true_iff]
    rintro (rfl | failed)
    · exact Option.isSome_iff_exists.mpr ⟨reset, target⟩
    · exact t.managed n failed

/-- A rebind runs the reset that was registered last, if there is one. -/
theorem rebind (t : Tracks c s) (name : String) :
    Tracks (c.rebind name) (s.rebind .plain maxDepth name).2 := by
  rw [Chronicle.rebind, ← t.targets name]
  cases target : s.rebinder.targets.get? name with
  | none =>
      rw [rebind_of_none target]
      exact t.congr rfl rfl
  | some reset =>
      cases h : (reset.effect s.state).1.error? name with
      | none =>
          rw [rebind_of_done target h]
          exact t.done (ResetResult.error?_eq_none_iff.mp h)
      | some e =>
          rw [rebind_of_failed target h]
          exact (t.failed target h).congr rfl rfl

/-! ### All names -/

/-- So are rebinds of names one after the other. -/
theorem rebindEach (t : Tracks c s) (names : List String) :
    Tracks (names.foldl Chronicle.rebind c) (s.rebindEach .plain names) := by
  induction names generalizing c s with
  | nil => exact t
  | cons name names ih => exact ih (t.rebind name)

theorem mem_names_iff (t : Tracks c s) : name ∈ s.rebinder.names ↔ name ∈ c.managed := by
  rw [Chronicle.mem_managed_iff, ← t.targets name]
  exact OrderedMap.mem_keys_iff

/-- A full rebind takes the names in the order of the history: both lists ascend. -/
theorem names_eq (t : Tracks c s) : s.rebinder.names = c.managed.toList :=
  List.Pairwise.eq_of_mem_iff (OrderedMap.keys_ascending _) c.managed.ascending
    fun _ => t.mem_names_iff

/-- So is the beginning of a full rebind. -/
theorem began (t : Tracks c s) : Tracks (c.tell .began) s.clearErrors where
  context := t.context
  state := t.state
  targets n := (t.targets n).trans (Chronicle.current?_tell_of_none rfl).symm
  errors _ _ := ⟨nofun, fun failed => absurd failed FailedLast.not_concat_began⟩
  managed _ := nofun

/-- So is a full rebind. -/
theorem rebindAll (t : Tracks c s) : Tracks c.rebindAll (s.rebindAll .plain) := by
  rw [Site.rebindAll, Chronicle.rebindAll, t.names_eq]
  exact t.began.rebindEach _

/-- A rebinder is concerned exactly if its chronicle is. -/
theorem concerns_iff (t : Tracks c s) {source : String} {keys : OrderedSet String} :
    concerns s.rebinder source keys = true ↔ c.Concerned source keys := by
  rw [concerns, Bool.or_eq_true, beq_iff_eq, beq_iff_eq, t.context, Chronicle.Concerned,
    OrderedSet.ext_iff]
  rfl

/-! ### Any operations -/

/-- So is every operation. -/
theorem perform (t : Tracks c s) (op : Operation σ) : Tracks (c.perform op) (s.perform op) := by
  cases op with
  | register name reset => exact t.register
  -- A bound value is registered with the reset that loads it.
  | registerBound name put load => exact t.register
  | rebind name => exact t.rebind name
  | rebindAll => exact t.rebindAll
  | environmentChange source keys =>
      rw [Site.perform, onEnvironmentChange, Chronicle.perform]
      by_cases concerned : c.Concerned source keys
      · have logged : Tracks c (s.log (changedLine keys.toList.length)) := t.congr rfl rfl
        rw [if_pos (t.concerns_iff.mpr concerned), if_pos concerned]
        exact logged.rebindAll
      · rw [if_neg (mt t.concerns_iff.mp concerned), if_neg concerned]
        exact t.congr rfl rfl
  | meanwhile change =>
      exact { t with state := congrArg change t.state }

end Tracks

/-- So are operations of any number. -/
theorem performAll_tracks {context : String} {state : σ} {ops : List (Operation σ)} :
    Tracks ((Chronicle.start context state).performAll ops)
      ((start context state).performAll ops) := by
  -- The history grows at its end, and so does the induction.
  induction ops using List.reverseRecOn with
  | nil => exact .start
  | append_singleton ops op ih =>
      rw [Chronicle.performAll, performAll, List.foldl_append, List.foldl_append]
      exact ih.perform op

end Site

/-- The operations that spare the failure of a name: no full rebind, and no rebind of the name
itself that fails. -/
def Chronicle.Spares (c : Chronicle σ) (name : String) : Operation σ → Prop
  | .register _ _ => True
  | .registerBound _ _ _ => True
  | .rebind other => other = name → ∀ reset, c.current? name = some reset →
      (reset.effect c.state).1 = .done
  | .rebindAll => False
  | .environmentChange source keys => ¬ c.Concerned source keys
  | .meanwhile _ => True

/-- What such an operation adds to the history is no matter to the name. -/
theorem FailedLast.perform_iff {c : Chronicle σ} {op : Operation σ} (spared : c.Spares name op) :
    FailedLast (c.perform op).happenings name e ↔ FailedLast c.happenings name e := by
  cases op with
  | register other reset => exact concat_registered_iff
  | registerBound other put load => exact concat_registered_iff
  | rebind other =>
      rw [Chronicle.perform, Chronicle.rebind]
      cases current : c.current? other with
      | none => rfl
      | some reset => exact concat_ended_iff fun same => spared same reset (same ▸ current)
  | rebindAll => exact spared.elim
  | environmentChange source keys => rw [Chronicle.perform, if_neg spared]
  | meanwhile change => rfl

namespace Site

variable {s : Site (PlainReset σ) σ} {c : Chronicle σ}

/-- What a rebinder says after a history. -/
structure Recalls (c : Chronicle σ) (s : Site (PlainReset σ) σ) : Prop where
  /-- A failure is recorded if it is the latest of its name since the last full rebind began. -/
  errors : ∀ name e, s.rebinder.errors.get? name = some e ↔ FailedLast c.happenings name e
  managed : ∀ name, name ∈ s.rebinder.names ↔ name ∈ c.managed
  errors_managed : ∀ name ∈ s.rebinder.errors.keys, name ∈ s.rebinder.names
  rebind : ∀ name, (s.rebind .plain maxDepth name).1 = true ↔
    ∃ reset, c.current? name = some reset ∧ (reset.effect c.state).1 = .done
  /-- A change is taken for a full rebind exactly if it concerns the rebinder. -/
  environmentChange : ∀ source keys,
    (s.onEnvironmentChange .plain source keys).1 = true ↔ c.Concerned source keys
  /-- Nothing but a full rebind or a new failure touches a recorded failure. -/
  kept : ∀ op name, c.Spares name op →
    (s.perform op).rebinder.errors.get? name = s.rebinder.errors.get? name

namespace Tracks

theorem rebind_iff (t : Tracks c s) :
    (s.rebind .plain maxDepth name).1 = true ↔
      ∃ reset, c.current? name = some reset ∧ (reset.effect c.state).1 = .done := by
  rw [← t.targets name, ← t.state]
  cases target : s.rebinder.targets.get? name with
  | none => simp [rebind_of_none target]
  | some reset =>
      cases h : (reset.effect s.state).1.error? name with
      | none =>
          have done := ResetResult.error?_eq_none_iff.mp h
          simp [rebind_of_done target h, done]
      | some e =>
          have failed : (reset.effect s.state).1 ≠ .done := fun done => by
            rw [done] at h
            cases h
          simp [rebind_of_failed target h, failed]

theorem onEnvironmentChange_iff (t : Tracks c s) {source : String} {keys : OrderedSet String} :
    (s.onEnvironmentChange .plain source keys).1 = true ↔ c.Concerned source keys := by
  rw [← t.concerns_iff, onEnvironmentChange]
  split <;> simp [*]

/-- An operation that spares a name keeps the failure recorded under it. -/
theorem kept {op : Operation σ} (t : Tracks c s) (spared : c.Spares name op) :
    (s.perform op).rebinder.errors.get? name = s.rebinder.errors.get? name := by
  refine Option.ext fun e => ?_
  rw [(t.perform op).errors, t.errors]
  exact FailedLast.perform_iff spared

theorem recalls (t : Tracks c s) : Recalls c s where
  errors := t.errors
  managed _ := t.mem_names_iff
  errors_managed _ failed :=
    OrderedMap.mem_keys_iff.mpr (t.managed _ (OrderedMap.mem_keys_iff.mp failed))
  rebind _ := t.rebind_iff
  environmentChange _ _ := t.onEnvironmentChange_iff
  kept _ _ := t.kept

end Tracks

/-- **A rebinder's errors are exactly the latest failures since the last full rebind began.**  This
holds after any operations, whatever the resets do each time they are run. -/
theorem performAll_recalls (context : String) (state : σ) (ops : List (Operation σ)) :
    Recalls ((Chronicle.start context state).performAll ops)
      ((start context state).performAll ops) :=
  performAll_tracks.recalls

end Site

end Failover
