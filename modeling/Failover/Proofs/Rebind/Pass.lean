import Failover.Proofs.Ordered
import Failover.Proofs.Rebind.History

/-!
# Rebinding — a full rebind

A full rebind runs the reset of every managed name once, in ascending order of the names, and goes
on whatever a reset does.  Each reset finds the state that the one before has left, so a reset may
read what an earlier one has written.  What comes of it depends on the resets and on the state that
the first of them finds, and not on how the resets came to be registered.

* `Run`, `Chain`: the run of one reset, and runs one after the other.
* `Pass`: a full rebind, told by its runs.
* `Site.rebindEach_series`: the runs of some names.
* `Site.performAll_fullRebind`: a full rebind after any history.
-/

namespace Failover

/-! ### Runs -/

/-- The run of a reset under a name, in the state that it found. -/
structure Run (σ : Type) where
  name : String
  reset : PlainReset σ
  found : σ

namespace Run

variable {σ : Type}

/-- How the run ended. -/
def result (run : Run σ) : ResetResult := (run.reset.effect run.found).1

/-- The state that the reset left. -/
def left (run : Run σ) : σ := (run.reset.effect run.found).2.1

/-- What the run left to be recorded. -/
def error? (run : Run σ) : Option RebindError := run.result.error? run.name

/-- What the reset logged, and that it failed. -/
def lines (run : Run σ) : List LogLine :=
  (run.reset.effect run.found).2.2 ++ run.error?.toList.map (Site.failedLine run.name)

/-- What was run. -/
def entry (run : Run σ) : String × PlainReset σ := (run.name, run.reset)

end Run

/-- Runs from one state to another, each of which finds what the one before has left. -/
def Chain {σ : Type} (first : σ) : List (Run σ) → σ → Prop
  | [], last => last = first
  | run :: runs, last => run.found = first ∧ Chain run.left runs last

/-- A place in the state that holds a value. -/
structure Handle (σ τ : Type) where
  get : σ → τ
  put : τ → σ → σ
  get_put : ∀ value state, get (put value state) = value

/-- The reset leaves the value of a handle as it is. -/
def PlainReset.Leaves {σ τ : Type} (reset : PlainReset σ) (handle : Handle σ τ) : Prop :=
  ∀ state, handle.get (reset.effect state).2.1 = handle.get state

/-- The value, if it was loaded. -/
def Loading.value? {τ : Type} : Loading τ → Option τ
  | .loaded value => some value
  | .failed _ => none
  | .crashed => none

/-- A full rebind that leads from one site to another: the runs that it consists of. -/
structure Pass {σ : Type} (c : Chronicle σ) (s s' : Site (PlainReset σ) σ)
    (runs : List (Run σ)) : Prop where
  ascending : (runs.map Run.name).Pairwise (· < ·)
  /-- Under every managed name the reset was run that was registered last, and no other. -/
  complete : ∀ name reset, (name, reset) ∈ runs.map Run.entry ↔ c.current? name = some reset
  chain : Chain s.state runs s'.state
  errors : ∀ name e, s'.rebinder.errors.get? name = some e ↔
    ∃ run ∈ runs, run.name = name ∧ run.error? = some e
  failed : ∀ name, name ∈ s'.rebinder.errors.keys ↔
    ∃ run ∈ runs, run.name = name ∧ run.result ≠ .done
  lines : s'.lines = s.lines ++ runs.flatMap Run.lines
  context : s'.rebinder.contextId = s.rebinder.contextId
  targets : s'.rebinder.targets = s.rebinder.targets
  /-- A bound value is the loaded one or that from before, when its reset has been run and, if no
  other reset puts a value there, when all of them have. -/
  bound : ∀ {τ : Type} (handle : Handle σ τ) name load,
    c.current? name = some (.bound handle.put load) →
    (∀ state, handle.get (load state).2.1 = handle.get state) →
    ∃ run ∈ runs, run.name = name ∧
      handle.get run.left = (load run.found).1.value?.getD (handle.get run.found) ∧
      ((∀ other reset, other ≠ name → c.current? other = some reset → reset.Leaves handle) →
        handle.get s'.state = (load run.found).1.value?.getD (handle.get s.state))

variable {σ : Type} {runs runs' : List (Run σ)} {name : String} {reset : PlainReset σ}
  {e : RebindError}

/-! ### Chains -/

namespace Chain

variable {first last last' : σ}

/-- A chain can be parted at any state on its way. -/
theorem append_iff :
    Chain first (runs ++ runs') last ↔ ∃ m, Chain first runs m ∧ Chain m runs' last := by
  induction runs generalizing first with
  | nil => simp [Chain]
  | cons run runs ih => simp [Chain, ih, and_assoc]

/-- The runs are determined by what is run and the state that is found at first. -/
theorem unique (h : Chain first runs last) (h' : Chain first runs' last')
    (same : runs.map Run.entry = runs'.map Run.entry) : runs = runs' ∧ last = last' := by
  induction runs generalizing first runs' with
  | nil =>
      obtain rfl := List.map_eq_nil_iff.mp same.symm
      exact ⟨rfl, h.trans h'.symm⟩
  | cons run runs ih =>
      obtain ⟨run', runs', rfl, entry, entries⟩ := List.map_eq_cons_iff.mp same.symm
      obtain ⟨found, rest⟩ := h
      obtain ⟨found', rest'⟩ := h'
      obtain rfl : run' = run := by
        cases run
        cases run'
        cases entry
        rw [Run.mk.injEq]
        exact ⟨rfl, rfl, found'.trans found.symm⟩
      obtain ⟨rfl, rfl⟩ := ih rest rest' entries.symm
      exact ⟨rfl, rfl⟩

/-- Runs that leave a handle alone leave its value. -/
theorem get_eq {τ : Type} {handle : Handle σ τ} (h : Chain first runs last)
    (leaves : ∀ run ∈ runs, run.reset.Leaves handle) : handle.get last = handle.get first := by
  induction runs generalizing first with
  | nil => rw [h]
  | cons run runs ih =>
      obtain ⟨head, tail⟩ := List.forall_mem_cons.mp leaves
      obtain ⟨rfl, rest⟩ := h
      exact (ih rest tail).trans (head run.found)

end Chain

/-! ### The runs of some names -/

/-- Runs that lead from one site to another. -/
structure Series (s s' : Site (PlainReset σ) σ) (runs : List (Run σ)) : Prop where
  chain : Chain s.state runs s'.state
  /-- The failures of the runs are recorded, and those from before are kept under other names. -/
  errors : ∀ name e, s'.rebinder.errors.get? name = some e ↔
    (∃ run ∈ runs, run.name = name ∧ run.error? = some e) ∨
      (∀ run ∈ runs, run.name = name → run.error? = none) ∧
        s.rebinder.errors.get? name = some e
  lines : s'.lines = s.lines ++ runs.flatMap Run.lines
  context : s'.rebinder.contextId = s.rebinder.contextId
  targets : s'.rebinder.targets = s.rebinder.targets

/-- Series of runs one after the other, for different names. -/
theorem Series.append {s t u : Site (PlainReset σ) σ} (h : Series s t runs) (h' : Series t u runs')
    (apart : ∀ run ∈ runs, run.name ∉ runs'.map Run.name) : Series s u (runs ++ runs') where
  chain := Chain.append_iff.mpr ⟨t.state, h.chain, h'.chain⟩
  errors name e := by
    have fresh : (∃ run ∈ runs, run.name = name ∧ run.error? = some e) →
        ∀ run ∈ runs', run.name = name → run.error? = none := by
      rintro ⟨run, mem, rfl, -⟩ other mem' same
      exact absurd (List.mem_map.mpr ⟨other, mem', same⟩) (apart run mem)
    simp only [h'.errors, h.errors, List.mem_append, or_and_right, exists_or, or_imp, forall_and]
    constructor
    · rintro (later | ⟨fine', earlier | ⟨fine, before⟩⟩)
      · exact .inl (.inr later)
      · exact .inl (.inl earlier)
      · exact .inr ⟨⟨fine, fine'⟩, before⟩
    · rintro ((earlier | later) | ⟨⟨fine, fine'⟩, before⟩)
      · exact .inr ⟨fresh earlier, .inl earlier⟩
      · exact .inl later
      · exact .inr ⟨fine', .inr ⟨fine, before⟩⟩
  lines := by
    apply Array.toList_inj.mp
    rw [h'.lines, h.lines, List.flatMap_append]
    simp
  context := h'.context.trans h.context
  targets := h'.targets.trans h.targets

namespace Site

variable {s s' : Site (PlainReset σ) σ} {c : Chronicle σ}

/-- The rebind of a name is one run. -/
theorem rebind_series (target : s.rebinder.targets.get? name = some reset) :
    Series s (s.rebind .plain maxDepth name).2 [⟨name, reset, s.state⟩] := by
  cases h : (reset.run s).1.error? name with
  | none =>
      have error : (Run.mk name reset s.state).error? = none := h
      rw [rebind_of_done target h]
      refine ⟨⟨rfl, rfl⟩, ?_, ?_, rfl, rfl⟩
      · intro other e
        simp [error, PlainReset.run]
      · simp [Run.lines, error, PlainReset.run]
  | some e =>
      have error : (Run.mk name reset s.state).error? = some e := h
      rw [rebind_of_failed target h]
      refine ⟨⟨rfl, rfl⟩, ?_, ?_, rfl, rfl⟩
      · intro other e'
        rw [setError, OrderedMap.get?_insert]
        by_cases same : other = name
        · simp [error, same]
        · simp [same, Ne.symm same, PlainReset.run, Site.log]
      · apply Array.toList_inj.mp
        simp [Run.lines, error, PlainReset.run, setError, Site.log]

/-- Names that are all managed are rebound one after the other, each by its own run. -/
theorem rebindEach_series {names : List String} (distinct : names.Nodup)
    (managed : ∀ name ∈ names, name ∈ s.rebinder.names) :
    ∃ runs, runs.map Run.name = names ∧
      (∀ run ∈ runs, s.rebinder.targets.get? run.name = some run.reset) ∧
      Series s (s.rebindEach .plain names) runs := by
  induction names generalizing s with
  | nil =>
      refine ⟨[], rfl, nofun, rfl, fun name e => ?_, ?_, rfl, rfl⟩
      · simp [rebindEach]
      · simp [rebindEach]
  | cons name names ih =>
      obtain ⟨new, distinct⟩ := List.nodup_cons.mp distinct
      obtain ⟨head, tail⟩ := List.forall_mem_cons.mp managed
      obtain ⟨reset, target⟩ := Option.isSome_iff_exists.mp (OrderedMap.mem_keys_iff.mp head)
      have one := rebind_series target
      have still : ∀ other ∈ names,
          other ∈ (s.rebind .plain maxDepth name).2.rebinder.names := by
        rw [Rebinder.names, one.targets]
        exact tail
      obtain ⟨runs, names, resets, rest⟩ := ih distinct still
      rw [one.targets] at resets
      refine ⟨⟨name, reset, s.state⟩ :: runs, by rw [List.map_cons, names],
        List.forall_mem_cons.mpr ⟨target, resets⟩, ?_⟩
      exact one.append rest (by simpa [names] using new)

/-! ### All names -/

namespace Tracks

/-- A full rebind consists of the runs of the current resets, in the order of their names. -/
theorem exists_series (t : Tracks c s) :
    ∃ runs, runs.map Run.name = c.managed.toList ∧
      (∀ run ∈ runs, c.current? run.name = some run.reset) ∧
      Series s.clearErrors (s.rebindAll .plain) runs := by
  have distinct : s.rebinder.names.Nodup := s.rebinder.targets.keys_ascending.imp Std.ne_of_lt
  obtain ⟨runs, names, resets, series⟩ :=
    rebindEach_series (s := s.clearErrors) distinct fun _ h => h
  refine ⟨runs, names.trans t.names_eq, fun run mem => ?_, series⟩
  rw [← t.targets]
  exact resets run mem

end Tracks

end Site

/-! ### Bound values -/

/-- The reset of a bound value leaves the loaded one, or that from before. -/
theorem PlainReset.get_bound {τ : Type} {handle : Handle σ τ}
    {load : σ → Loading τ × σ × List LogLine}
    (apart : ∀ state, handle.get (load state).2.1 = handle.get state) (state : σ) :
    handle.get ((PlainReset.bound handle.put load).effect state).2.1 =
      (load state).1.value?.getD (handle.get state) := by
  rw [← apart state, PlainReset.bound]
  dsimp only
  rcases load state with ⟨value | message | _, left, lines⟩
  · exact handle.get_put value left
  · rfl
  · rfl

/-- Of runs that each have a name of their own, one is of a bound value and the others leave it. -/
theorem Chain.get_bound {τ : Type} {handle : Handle σ τ} {first last : σ}
    {load : σ → Loading τ × σ × List LogLine} {run : Run σ} (h : Chain first runs last)
    (distinct : (runs.map Run.name).Nodup) (mem : run ∈ runs)
    (reset : run.reset = .bound handle.put load)
    (apart : ∀ state, handle.get (load state).2.1 = handle.get state)
    (others : ∀ other ∈ runs, other.name ≠ run.name → other.reset.Leaves handle) :
    handle.get last = (load run.found).1.value?.getD (handle.get first) := by
  obtain ⟨before, after, rfl⟩ := List.append_of_mem mem
  rw [List.map_append, List.map_cons, List.nodup_middle, List.nodup_cons] at distinct
  have leaves : ∀ other ∈ before ++ after, other.reset.Leaves handle := by
    intro other hm
    refine others other ?_ ?_
    · rcases List.mem_append.mp hm with hm | hm <;> simp [hm]
    · intro same
      refine distinct.1 ?_
      rw [← List.map_append, ← same]
      exact List.mem_map_of_mem hm
  obtain ⟨leaves, leaves'⟩ := List.forall_mem_append.mp leaves
  obtain ⟨m, earlier, found, later⟩ := Chain.append_iff.mp h
  rw [later.get_eq leaves', Run.left, reset, PlainReset.get_bound apart, found,
    earlier.get_eq leaves]

/-! ### A pass -/

/-- A run that did not succeed leaves a failure. -/
theorem Run.result_ne_done_iff {run : Run σ} : run.result ≠ .done ↔ ∃ e, run.error? = some e := by
  rw [← Option.ne_none_iff_exists', Ne, Ne, Run.error?, ResetResult.error?_eq_none_iff]

/-- Runs of current resets under all managed names are the runs of all current resets. -/
theorem Chronicle.mem_entries_iff {c : Chronicle σ} (names : runs.map Run.name = c.managed.toList)
    (resets : ∀ run ∈ runs, c.current? run.name = some run.reset) :
    (name, reset) ∈ runs.map Run.entry ↔ c.current? name = some reset := by
  constructor
  · intro mem
    obtain ⟨run, ran, entry⟩ := List.mem_map.mp mem
    obtain ⟨rfl, rfl⟩ := Prod.mk.inj entry
    exact resets run ran
  · intro current
    have managed : name ∈ runs.map Run.name := by
      rw [names, ← OrderedSet.mem_def, mem_managed_iff, current]
      rfl
    obtain ⟨run, mem, rfl⟩ := List.mem_map.mp managed
    obtain rfl := Option.some.inj ((resets run mem).symm.trans current)
    exact List.mem_map_of_mem mem

namespace Site.Tracks

variable {s : Site (PlainReset σ) σ} {c : Chronicle σ}

/-- **A full rebind is a pass over all managed names.** -/
theorem exists_pass (t : Tracks c s) : ∃ runs, Pass c s (s.rebindAll .plain) runs := by
  obtain ⟨runs, names, resets, series⟩ := t.exists_series
  have ascending : (runs.map Run.name).Pairwise (· < ·) := names ▸ c.managed.ascending
  have errors : ∀ name e, (s.rebindAll .plain).rebinder.errors.get? name = some e ↔
      ∃ run ∈ runs, run.name = name ∧ run.error? = some e := by
    intro name e
    -- What was recorded before has been forgotten.
    have none : s.clearErrors.rebinder.errors.get? name = none := rfl
    simp [series.errors, none]
  refine ⟨runs, ascending, fun _ _ => Chronicle.mem_entries_iff names resets, series.chain, errors,
    fun name => ?_, series.lines, series.context, series.targets,
    fun handle name load current apart => ?_⟩
  · rw [OrderedMap.mem_keys_iff, OrderedMap.contains, Option.isSome_iff_exists]
    simp only [errors, Run.result_ne_done_iff]
    constructor
    · rintro ⟨e, run, mem, named, error⟩
      exact ⟨run, mem, named, e, error⟩
    · rintro ⟨run, mem, named, e, error⟩
      exact ⟨e, run, mem, named, error⟩
  · have ran := (Chronicle.mem_entries_iff names resets).mpr current
    obtain ⟨run, mem, entry⟩ := List.mem_map.mp ran
    obtain ⟨rfl, reset⟩ := Prod.mk.inj entry
    refine ⟨run, mem, rfl, ?_, fun others => ?_⟩
    · rw [Run.left, reset, PlainReset.get_bound apart]
    · exact series.chain.get_bound (ascending.imp Std.ne_of_lt) mem reset apart
        fun other hm ne => others _ _ ne (resets other hm)

end Site.Tracks

/-! ### Any order of registration -/

namespace Pass

variable {s t s' t' : Site (PlainReset σ) σ} {c c' : Chronicle σ}

/-- The entries that are run ascend, and they are the current ones. -/
theorem entries_ascending (p : Pass c s t runs) :
    (runs.map Run.entry).Pairwise fun a b => a.1 < b.1 :=
  List.pairwise_map.mpr (List.pairwise_map.mp p.ascending)

/-- **A full rebind is determined by the current resets and the state that it finds.** -/
theorem unique (p : Pass c s t runs) (p' : Pass c' s' t' runs')
    (same : ∀ name, c.current? name = c'.current? name) (state : s.state = s'.state) :
    runs = runs' ∧ t.state = t'.state ∧ t.rebinder.errors = t'.rebinder.errors := by
  have irrefl : Std.Irrefl fun a b : String × PlainReset σ => a.1 < b.1 := ⟨fun _ => Std.lt_irrefl⟩
  have entries : runs.map Run.entry = runs'.map Run.entry :=
    p.entries_ascending.eq_of_mem_iff p'.entries_ascending fun ⟨name, reset⟩ => by
      rw [p.complete, p'.complete, same]
  have chain' := p'.chain
  rw [← state] at chain'
  obtain ⟨rfl, left⟩ := p.chain.unique chain' entries
  refine ⟨rfl, left, OrderedMap.ext_get? fun name => Option.ext fun e => ?_⟩
  rw [p.errors, p'.errors]

end Pass

/-! ### After any history -/

namespace Chronicle

variable {c : Chronicle σ}

theorem context_rebind : (c.rebind name).context = c.context := by
  rw [rebind]
  cases c.current? name <;> rfl

theorem context_rebindAll : c.rebindAll.context = c.context := by
  have each (names : List String) (c : Chronicle σ) :
      (names.foldl rebind c).context = c.context := by
    induction names generalizing c with
    | nil => rfl
    | cons name names ih => exact (ih (c.rebind name)).trans context_rebind
  exact each _ _

theorem context_perform {op : Operation σ} : (c.perform op).context = c.context := by
  cases op with
  | register name reset => rfl
  | registerBound name put load => rfl
  | rebind name => exact context_rebind
  | rebindAll => exact context_rebindAll
  | environmentChange source keys =>
      rw [perform]
      split
      · exact context_rebindAll
      · rfl
  | meanwhile change => rfl

/-- Whatever is done to a rebinder, its context stays. -/
theorem context_performAll {ops : List (Operation σ)} : (c.performAll ops).context = c.context := by
  induction ops generalizing c with
  | nil => rfl
  | cons op ops ih => exact (ih (c := c.perform op)).trans context_perform

end Chronicle

namespace Site

/-- A site with the history that has led to it. -/
def Arises (c : Chronicle σ) (s : Site (PlainReset σ) σ) : Prop :=
  ∃ context state ops, c = (Chronicle.start context state).performAll ops ∧
    s = (start context state).performAll ops

/-- What a full rebind does at a site with a history. -/
structure FullRebind (c : Chronicle σ) (s : Site (PlainReset σ) σ) : Prop where
  pass : ∃ runs, Pass c s (s.rebindAll .plain) runs
  /-- It does the same at any other site with the same current resets and the same state, in
  whichever order they came to be registered there. -/
  unordered : ∀ c' s', Arises c' s' → (∀ name, c.current? name = c'.current? name) →
    s.state = s'.state →
      (s.rebindAll .plain).state = (s'.rebindAll .plain).state ∧
        (s.rebindAll .plain).rebinder.errors = (s'.rebindAll .plain).rebinder.errors ∧
        ∃ runs, Pass c s (s.rebindAll .plain) runs ∧ Pass c' s' (s'.rebindAll .plain) runs

/-- What the rebinder of a context makes of a change: it heeds those from the context, and those
that have the name of their source for their only key. -/
structure Heeds (context : String) (c : Chronicle σ) (s : Site (PlainReset σ) σ) (source : String)
    (keys : OrderedSet String) : Prop where
  heeded_iff : (s.onEnvironmentChange .plain source keys).1 = true ↔
    source = context ∨ keys = .ofList [source]
  heeded : source = context ∨ keys = .ofList [source] →
    (s.onEnvironmentChange .plain source keys).2 =
        (s.log (changedLine keys.toList.length)).rebindAll .plain ∧
      FullRebind c (s.log (changedLine keys.toList.length))
  /-- Nothing but a line is left of any other change. -/
  ignored : ¬ (source = context ∨ keys = .ofList [source]) →
    (s.onEnvironmentChange .plain source keys).2 = s.log (ignoredLine source)

namespace Tracks

variable {s : Site (PlainReset σ) σ} {c : Chronicle σ}

theorem fullRebind (t : Tracks c s) : FullRebind c s where
  pass := t.exists_pass
  unordered c' s' arises same found := by
    obtain ⟨context, state, ops, rfl, rfl⟩ := arises
    obtain ⟨runs, p⟩ := t.exists_pass
    obtain ⟨runs', p'⟩ := performAll_tracks.exists_pass
    obtain ⟨rfl, left, errors⟩ := p.unique p' same found
    exact ⟨left, errors, runs, p, p'⟩

theorem heeds (t : Tracks c s) (source : String) (keys : OrderedSet String) :
    Heeds c.context c s source keys where
  heeded_iff := t.onEnvironmentChange_iff
  heeded concerned := by
    have logged : Tracks c (s.log (changedLine keys.toList.length)) := t.congr rfl rfl
    rw [onEnvironmentChange, if_pos (t.concerns_iff.mpr concerned)]
    exact ⟨rfl, logged.fullRebind⟩
  ignored unconcerned := by
    rw [onEnvironmentChange, if_neg (mt t.concerns_iff.mp unconcerned)]

end Tracks

/-- **A full rebind runs every current reset once, in ascending order, and survives them all.**  A
change of the environment is a full rebind, or it is nothing. -/
theorem performAll_fullRebind (context : String) (state : σ) (ops : List (Operation σ)) :
    let c := (Chronicle.start context state).performAll ops
    let s := (start context state).performAll ops
    FullRebind c s ∧ ∀ source keys, Heeds context c s source keys := by
  intro c s
  have tracks : Tracks c s := performAll_tracks
  have kept : c.context = context := Chronicle.context_performAll
  exact ⟨tracks.fullRebind, kept ▸ tracks.heeds⟩

end Site

end Failover
