import Failover.Proofs.Call.Account
import Failover.Proofs.Call.Flat
import Mathlib.Data.Finset.Card
import Mathlib.Data.List.Induction

/-!
# Calls — what is counted as a distinct instance

The counter of distinct instances is compared with nothing but the instance that was let go last.
Over a whole call it counts the changes of the endpoint: the first selection, and every selection
of another endpoint than the one before.  That is the number of different endpoints if the balancer
never returns to an endpoint that it has left.

* `changes`: how often a list changes in its first part.
* `changes_eq_card`: the number of different values in a list that never returns to one.
* `Setup.Tallied`: what the counter and the events say of the selections so far.
* `Setup.executeRetrying_distinct`: every call that may retry.
-/

namespace Failover

/-! ### Changes -/

section

variable {α : Type} [DecidableEq α] {l l' : List α} {x : α} {m n : Nat}

/-- How many of the first places of a list hold a change: the first place, and those with another
value than the place before. -/
def changes (l : List α) (n : Nat) : Nat :=
  (List.range n).countP fun t => t = 0 ∨ l[t]? ≠ l[t - 1]?

/-- A list that has left a value does not have it again. -/
def NeverReturns (l : List α) : Prop :=
  ∀ a b c, a < b → b < c → c < l.length → l[a]? = l[c]? → l[b]? = l[a]?

/-- One place further there is a change at most at the new place. -/
theorem changes_succ :
    changes l (n + 1) = changes l n + if n = 0 ∨ l[n]? ≠ l[n - 1]? then 1 else 0 := by
  rw [changes, List.range_succ, List.countP_append, List.countP_singleton]
  simp [changes]

theorem changes_le : changes l n ≤ n := by
  have le := List.countP_le_length (p := fun t => t = 0 ∨ l[t]? ≠ l[t - 1]?) (l := List.range n)
  rwa [List.length_range] at le

theorem changes_le_succ : changes l n ≤ changes l (n + 1) := by
  rw [changes_succ]
  exact Nat.le_add_right _ _

theorem changes_succ_le : changes l (n + 1) ≤ changes l n + 1 := by
  rw [changes_succ]
  split <;> omega

theorem one_le_changes (pos : 0 < n) : 1 ≤ changes l n := by
  induction n with
  | zero => exact absurd pos (Nat.lt_irrefl 0)
  | succ n ih =>
      rcases Nat.eq_zero_or_pos n with rfl | later
      · rw [changes_succ, if_pos (.inl rfl)]
        exact Nat.le_add_left 1 _
      · exact (ih later).trans changes_le_succ

/-- The places of a list keep what they hold when the list grows. -/
theorem changes_append (le : n ≤ l.length) : changes (l ++ l') n = changes l n := by
  refine List.countP_congr fun t mem => ?_
  have lt : t < l.length := (List.mem_range.mp mem).trans_le le
  have lt' : t - 1 < l.length := (Nat.sub_le t 1).trans_lt lt
  rw [List.getElem?_append_left lt, List.getElem?_append_left lt']

/-- An item at the end is a change unless it equals the last. -/
theorem changes_concat :
    changes (l ++ [x]) (l.length + 1) =
      changes l l.length + if l.getLast? = some x then 0 else 1 := by
  rw [changes_succ, changes_append (Nat.le_refl _), List.getElem?_concat_length]
  cases l with
  | nil => rfl
  | cons y l =>
      have lt : (y :: l).length - 1 < (y :: l).length := Nat.sub_lt (Nat.succ_pos _) Nat.one_pos
      rw [List.getElem?_append_left lt, ← List.getLast?_eq_getElem?]
      by_cases same : (y :: l).getLast? = some x
      · simp [same]
      · simp [same, Ne.symm same]

omit [DecidableEq α] in
theorem mem_take_iff : x ∈ l.take n ↔ ∃ a < n, l[a]? = some x := by
  simp only [List.mem_iff_getElem?, List.getElem?_take, Option.ite_none_right_eq_some]

omit [DecidableEq α] in
/-- A list that never returns changes where a value stands that it has not had before. -/
theorem change_iff_notMem (never : NeverReturns l) (lt : n < l.length) :
    n = 0 ∨ l[n]? ≠ l[n - 1]? ↔ l[n] ∉ l.take n := by
  have here : l[n]? = some l[n] := List.getElem?_eq_getElem lt
  rw [mem_take_iff, ← here]
  constructor
  · rintro change ⟨a, before, same⟩
    have later : l[n]? ≠ l[n - 1]? := change.resolve_left (Nat.ne_zero_of_lt before)
    rcases Nat.eq_or_lt_of_le (Nat.le_sub_one_of_lt before) with rfl | between
    · exact later same.symm
    · have back := never a (n - 1) n between (Nat.sub_one_lt_of_lt before) lt same
      exact later (same.symm.trans back.symm)
  · intro new
    rw [or_iff_not_imp_left]
    intro later same
    exact new ⟨n - 1, Nat.sub_one_lt later, same.symm⟩

/-- A list that never returns has as many values as it changes. -/
theorem changes_eq_card (never : NeverReturns l) (le : n ≤ l.length) :
    changes l n = (l.take n).toFinset.card := by
  induction n with
  | zero => rfl
  | succ n ih =>
      have lt : n < l.length := le
      rw [changes_succ, ih (Nat.le_of_lt lt), List.take_succ_eq_append_getElem lt,
        List.toFinset_append]
      simp only [change_iff_notMem never lt]
      by_cases old : l[n] ∈ l.take n
      · simp [old]
      · simp [old]

end

/-! ### Selections -/

namespace Instance

/-- What instances are told apart by. -/
def endpoint (i : Instance) : String × String × UInt16 := (i.id, i.host, i.port)

/-- Two instances are the same endpoint if id, host and port agree. -/
theorem sameEndpoint_iff {i j : Instance} : i.sameEndpoint j = true ↔ i.endpoint = j.endpoint := by
  simp [sameEndpoint, endpoint, and_assoc]

end Instance

/-- The counter that compares a selection with the one before counts the changes. -/
theorem distinctCount_eq_changes {is : List Instance} :
    distinctCount is = changes (is.map Instance.endpoint) is.length := by
  induction is using List.reverseRecOn with
  | nil => rfl
  | append_singleton is i ih =>
      have grown := changes_concat (l := is.map Instance.endpoint) (x := i.endpoint)
      rw [List.length_map, List.getLast?_map] at grown
      rw [distinctCount_concat, ih, List.map_append, List.length_append, List.map_singleton,
        List.length_singleton, grown]
      cases is.getLast? with
      | none => rfl
      | some j => simp [← Instance.sameEndpoint_iff]

/-- Whether an event tells of a selection. -/
def Event.isSelection : Event → Bool
  | .instanceSelected .. => true
  | _ => false

namespace Journal

/-- The endpoints of the instances that the balancer gave. -/
def endpoints (j : Journal) : List (String × String × UInt16) := j.given.map Instance.endpoint

/-- The events that tell of them. -/
def selections (j : Journal) : List Event := j.events.filter Event.isSelection

end Journal

/-- The events that tell of selected instances, each with the changes up to it. -/
def selectionsOf (service : String) (is : List Instance) : List Event :=
  is.mapIdx fun t i => .instanceSelected service i.id (changes (is.map Instance.endpoint) (t + 1))

/-- One more selection tells of the counter with it. -/
theorem selectionsOf_concat {service : String} {is : List Instance} {i : Instance} :
    selectionsOf service (is ++ [i]) =
      selectionsOf service is ++ [.instanceSelected service i.id (distinctCount (is ++ [i]))] := by
  rw [selectionsOf, List.mapIdx_append, List.mapIdx_singleton, Nat.zero_add,
    distinctCount_eq_changes, List.length_append, List.length_singleton]
  congr 1
  rw [selectionsOf, List.mapIdx_eq_mapIdx_iff]
  intro t lt
  rw [List.map_append, changes_append]
  rw [List.length_map]
  exact lt

/-! ### Turns -/

/-- Entries that leave the balancer alone give no instance. -/
theorem Tells.given {es : List Entry} {events : List Event} (h : Tells es events) :
    (Journal.ofList es).given = [] := by
  rw [Journal.given, List.filterMap_eq_nil_iff]
  intro e he
  have quiet := h.quiet e he
  cases e <;> first | rfl | cases quiet

namespace Setup

variable {σ : Type} {s : Setup σ} {p : Policy} {raw : Request} {service : String} {b : σ}
  {c c₁ : Context} {w w₁ : World σ} {i : Instance} {o : Outcome} {es : List Entry}
  {events : List Event}

theorem given_addAll :
    (w.addAll es).journal.given = w.journal.given ++ (Journal.ofList es).given := by
  rw [Journal.given, World.toList_addAll, List.filterMap_append]
  rfl

theorem selections_addAll :
    (w.addAll es).journal.selections =
      w.journal.selections ++ (Journal.eventsIn es).filter Event.isSelection := by
  rw [Journal.selections, Journal.events, World.toList_addAll, List.filterMap_append,
    List.filter_append]
  rfl

theorem selectedEntries_given : (Journal.ofList (s.selectedEntries c i)).given = [i] := by
  have quiet : (Journal.ofList (.logged (selectedLine (c.bind i) i) ::
      s.emission (.instanceSelected c.service i.id (c.bind i).distinct))).given = [] :=
    tells_selected.given
  exact congrArg (i :: ·) quiet

/-- What a context and a journal say of the selections so far. -/
structure Tallied (service : String) (c : Context) (j : Journal) : Prop where
  service_eq : c.service = service
  /-- The last selection is bound, or it has been let go. -/
  last : c.bound.or c.released = j.given.getLast?
  distinct : c.distinct = distinctCount j.given
  told : j.selections = selectionsOf service j.given

/-- What an outcome and a journal say of the selections of a call. -/
structure Counted (service : String) (o : Outcome) (j : Journal) : Prop where
  told : j.selections = selectionsOf service j.given
  spent : ∀ service' attempts distinct last,
    o = .error (.budgetExhausted service' attempts distinct last) →
      distinct = distinctCount j.given

namespace Tallied

/-- Entries that tell of no selection are of no matter. -/
theorem addAll {words : Words} (t : Tallied service c w.journal)
    (given : (Journal.ofList es).given = [])
    (told : (Journal.eventsIn es).filter Event.isSelection = []) :
    Tallied service c (({ w with balancer := b, words := words } : World σ).addAll es).journal where
  service_eq := t.service_eq
  last := by
    rw [given_addAll, given, List.append_nil]
    exact t.last
  distinct := by
    rw [given_addAll, given, List.append_nil]
    exact t.distinct
  told := by
    rw [given_addAll, selections_addAll, given, told, List.append_nil, List.append_nil]
    exact t.told

theorem counted (t : Tallied service c w.journal)
    (spent : ∀ service' attempts distinct last,
      o = .error (.budgetExhausted service' attempts distinct last) → distinct = c.distinct) :
    Counted service o w.journal where
  told := t.told
  spent _ _ _ _ h := (spent _ _ _ _ h).trans t.distinct

/-- Letting the bound instance go is no selection. -/
theorem after (t : Tallied service c w.journal) (bound : c.bound = some i) (m : Move) :
    Tallied service (c.after m) w.journal := by
  cases m with
  | next => exact ⟨t.service_eq, by rw [← t.last, bound]; exact bound, t.distinct, t.told⟩
  | same => exact t
  | giveUp => exact t

/-- A selection keeps the tally. -/
theorem target (t : Tallied service c w.journal) (h : s.Target c w i c₁ w₁) :
    Tallied service c₁ w₁.journal := by
  cases h with
  | kept bound => exact t
  | chosen unbound live choice =>
      have released : c.released = w.journal.given.getLast? := by
        rw [← t.last, unbound, Option.none_or]
      have told : Journal.eventsIn (s.selectedEntries c i) =
          [.instanceSelected c.service i.id (c.bind i).distinct] := tells_selected.told
      have distinct : (c.bind i).distinct = distinctCount (w.journal.given ++ [i]) :=
        Context.bind_distinct released t.distinct
      refine ⟨t.service_eq, ?_, ?_, ?_⟩
      · rw [given_addAll, selectedEntries_given, List.getLast?_concat]
        rfl
      · rw [given_addAll, selectedEntries_given]
        exact distinct
      · rw [given_addAll, selections_addAll, selectedEntries_given, told, distinct,
          selectionsOf_concat, ← t.told, t.service_eq]
        rfl

end Tallied

/-- A turn leaves a context that tallies, or an outcome that counts what was selected. -/
def Turn.Tallies (service : String) : Turn σ → Prop
  | .again c w => Tallied service c w.journal
  | .over o w => Counted service o w.journal

/-- A reaction keeps the tally, or ends with the number that it holds. -/
theorem Reaction.tallies {reply : Except Failure Response} {t : Turn σ}
    (h : s.Reaction p c w i reply t) (tallied : Tallied service c w.journal)
    (bound : c.bound = some i) : Turn.Tallies service t := by
  have onward {words : Words} {es : List Entry} {events : List Event} (tells : Tells es events)
      (quiet : events.filter Event.isSelection = []) :
      Tallied service c (({ w with words := words } : World σ).addAll es).journal :=
    tallied.addAll tells.given (tells.told ▸ quiet)
  cases h with
  | usable verdict tells => exact (onward tells rfl).counted nofun
  | cancelled verdict tells => exact (onward tells rfl).counted nofun
  | fatal verdict tells => exact (onward tells rfl).counted nofun
  | @single last es verdict move one tells =>
      refine (onward tells rfl).counted fun _ _ _ _ spent => ?_
      cases last <;> cases spent
  | spent verdict move more tells =>
      refine (onward tells rfl).counted fun _ _ _ _ spent => ?_
      cases spent
      rfl
  | interrupted verdict move fired undelayed tells => exact (onward tells rfl).counted nofun
  | cut verdict move fires scheduling =>
      obtain ⟨delay, tells⟩ := scheduling.tells
      exact (onward tells rfl).counted nofun
  | again verdict move scheduling =>
      obtain ⟨delay, tells⟩ := scheduling.tells
      exact (onward tells rfl).after bound _

/-- So does a turn. -/
theorem turn_tallies (tallied : Tallied service c w.journal) :
    Turn.Tallies service (s.turn p raw c w) := by
  have turn : s.TurnCase p raw c w (s.turn p raw c w) := turn_case
  generalize s.turn p raw c w = t at turn
  cases turn with
  | fired unbound fired => exact tallied.counted nofun
  | empty unbound live choice => exact (tallied.addAll rfl rfl).counted nofun
  | unaddressable target bind => exact ((tallied.target target).addAll rfl rfl).counted nofun
  | @attempted i c₁ w₁ r reply b t target bind answer reaction weighed =>
      have sent : Tallied service c₁
          (({ w₁ with balancer := b } : World σ).addAll [.attempted c₁.service i r]).journal :=
        (tallied.target target).addAll rfl rfl
      -- An attempt counts for neither the selections nor the instances.
      have recorded : Tallied service c₁.recordAttempt
          (({ w₁ with balancer := b } : World σ).addAll [.attempted c₁.service i r]).journal :=
        ⟨sent.service_eq, sent.last, sent.distinct, sent.told⟩
      exact reaction.tallies recorded target.bound_eq

/-- So do the turns of a call. -/
theorem turns_counted {limit : Nat} (tallied : Tallied service c w.journal)
    (run : s.turns p raw limit c w = some (o, w₁)) : Counted service o w₁.journal := by
  induction limit generalizing c w with
  | zero => cases run
  | succ limit ih =>
      have step : Turn.Tallies service (s.turn p raw c w) := turn_tallies tallied
      rw [turns] at run
      generalize s.turn p raw c w = t at *
      rcases t with ⟨c', w'⟩ | ⟨o', w'⟩
      · exact ih step run
      · cases run
        exact step

/-! ### The whole call -/

/-- What a call reports as its distinct instances: the changes of the endpoint. -/
structure CountsChanges (service : String) (o : Outcome) (j : Journal) : Prop where
  /-- Every selection is told of, with the changes up to it. -/
  selections : j.selections = j.given.mapIdx fun t i =>
    .instanceSelected service i.id (changes j.endpoints (t + 1))
  exhausted : ∀ service' attempts distinct time,
    .exhausted service' attempts distinct time ∈ j.events →
      distinct = changes j.endpoints j.given.length
  spent : ∀ service' attempts distinct last,
    o = .error (.budgetExhausted service' attempts distinct last) →
      distinct = changes j.endpoints j.given.length
  bounds : ∀ n, 0 < n → 1 ≤ changes j.endpoints n ∧ changes j.endpoints n ≤ n
  steps : ∀ n, changes j.endpoints n ≤ changes j.endpoints (n + 1) ∧
    changes j.endpoints (n + 1) ≤ changes j.endpoints n + 1
  /-- If no endpoint is returned to, the changes are the different endpoints. -/
  different : NeverReturns j.endpoints → ∀ n ≤ j.given.length,
    changes j.endpoints n = (j.endpoints.take n).toFinset.card

/-- So does a whole call that the policy lets retry. -/
theorem executeRetrying_counted {limit : Nat} {words : Words}
    (retried : s.cancelled (.start b words) = false → p.admits raw.method = true)
    (run : s.executeRetrying limit p service raw (.start b words) = some (o, w)) :
    Counted service o w.journal := by
  have fresh : Tallied service (.fresh service) (World.start b words).journal :=
    ⟨rfl, rfl, rfl, rfl⟩
  cases hf : s.cancelled (.start b words) with
  | true =>
      rw [executeRetrying, if_pos hf] at run
      cases run
      exact fresh.counted fun _ _ _ _ spent => by cases spent
  | false =>
      rw [executeRetrying_of_admits hf (retried hf)] at run
      exact turns_counted (fresh.addAll rfl rfl) run

/-- **The reported number of distinct instances is the number of changes of the endpoint**, whatever
the balancer hands out, and however many attempts are made on it. -/
theorem executeRetrying_distinct {limit : Nat} {words : Words}
    (retried : s.cancelled (.start b words) = false → p.admits raw.method = true)
    (run : s.executeRetrying limit p service raw (.start b words) = some (o, w)) :
    CountsChanges service o w.journal := by
  obtain ⟨told, spent⟩ := executeRetrying_counted retried run
  obtain ⟨lawful, opens⟩ := executeRetrying_course retried run
  have closing := opens_closing opens lawful
  refine ⟨told, fun service' attempts distinct time mem => ?_, fun _ _ _ _ h => ?_,
    fun n pos => ⟨one_le_changes pos, changes_le⟩, fun n => ⟨changes_le_succ, changes_succ_le⟩,
    fun never n le => changes_eq_card never ?_⟩
  · obtain ⟨last, h⟩ := (mem_exhausted_iff closing).mp ⟨time, mem⟩
    rw [spent _ _ _ _ h, distinctCount_eq_changes]
    rfl
  · rw [spent _ _ _ _ h, distinctCount_eq_changes]
    rfl
  · rwa [Journal.endpoints, List.length_map]

/-- Two instances in turn: the second change is back to the endpoint that was left first. -/
theorem executeRetrying_distinct_returned :
    let reset : Failure := ⟨.reset, "closed"⟩
    let outcomes : List (Except Failure Status) := [.error reset, .error reset, .error reset]
    ∃ w, (Setup.sample .never).executeRetrying 3 (.counting 1 2) "users" .sample
        (.start (.sample outcomes) (.constant 0)) =
          some (.error (.budgetExhausted "users" 3 3 (.failure reset)), w) ∧
      CountsChanges "users" (.error (.budgetExhausted "users" 3 3 (.failure reset))) w.journal := by
  intro reset outcomes
  have run : ((Setup.sample .never).executeRetrying 3 (.counting 1 2) "users" .sample
      (.start (.sample outcomes) (.constant 0))).map
        (fun x => match x.1 with
          | .ok _ => none
          | .error e => some e) =
      some (some (.budgetExhausted "users" 3 3 (.failure reset))) := by
    decide +kernel
  obtain ⟨⟨o, w⟩, run, ho⟩ := Option.map_eq_some_iff.mp run
  cases o with
  | ok r => cases ho
  | error e =>
      obtain rfl := Option.some.inj ho
      exact ⟨w, run, executeRetrying_distinct (fun _ => by decide) run⟩

end Setup

end Failover
