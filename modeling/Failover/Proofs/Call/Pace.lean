import Failover.Proofs.Backoff.Window
import Failover.Proofs.Call.Bypass
import Failover.Proofs.Call.Calm

/-!
# Calls — the pace of the retries

A retry is scheduled with the delay that the policy computes from the attempts made so far, on
whatever instances they were made; and the sleeper is asked for the delays that are not zero.  So
under a configured policy the delays of a call are those of the backoff, one after the other, and
moving on to another instance does not start them anew.

* `Paces`: the retries that are scheduled from one world to another.
* `turn_paced`: what a turn adds.
* `executeRetrying_times`: the pace of a whole call, under any policy.
* `executeRetrying_paced`: the pace under a configuration.
-/

namespace Failover

/-! ### Schedules and waits -/

/-- The delay with which a retry is scheduled. -/
def Event.delay? : Event → Option Duration
  | .retryScheduled _ _ delay => some delay
  | _ => none

namespace Journal

/-- The delays of the retries that were scheduled. -/
def schedules (j : Journal) : List Duration := j.events.filterMap Event.delay?

/-- The delays that are waited for. -/
def waits (ds : List Duration) : List Duration := ds.filter fun d => 0 < d.nanos

/-- The call ended with the reply to an attempt, and not because it was cancelled: a failure of the
transport is one that came back from the last thing asked of the balancer. -/
def Concludes (j : Journal) : Outcome → Prop
  | .ok _ => True
  | .error (.budgetExhausted ..) => True
  | .error (.connectivity ..) => ∃ service i r, j.calls.getLast? = some (.attempted service i r)
  | .error _ => False

theorem delays_of_append {j : Journal} {as bs : List Entry} (h : j.toList = as ++ bs) :
    j.delays = (ofList as).delays ++ (ofList bs).delays := by
  rw [delays, h, List.filterMap_append]
  rfl

theorem schedules_of_append {j : Journal} {as bs : List Entry} (h : j.toList = as ++ bs) :
    j.schedules = (ofList as).schedules ++ (ofList bs).schedules := by
  rw [schedules, events, h, List.filterMap_append, List.filterMap_append]
  rfl

end Journal

/-- Entries schedule what they tell. -/
theorem Tells.schedules {es : List Entry} {events : List Event} (h : Tells es events) :
    (Journal.ofList es).schedules = events.filterMap Event.delay? := by
  rw [← h.told]
  rfl

/-- Where no time can pass nothing is waited for. -/
theorem Journal.delays_of_not_isPause {es : List Entry} (h : ∀ e ∈ es, e.isPause = false) :
    (ofList es).delays = [] := by
  rw [delays, List.filterMap_eq_nil_iff]
  intro e he
  have quiet := h e he
  cases e <;> first | rfl | cases quiet

namespace Setup

variable {σ : Type}

/-- From one journal to another retries were scheduled with the given delays, and the sleeper was
asked for those that are not zero. -/
structure Paces (j j' : Journal) (ds : List Duration) : Prop where
  scheduled : j'.schedules = j.schedules ++ ds
  slept : j'.delays = j.delays ++ Journal.waits ds

variable {s : Setup σ} {p : Policy} {c : Context} {w : World σ} {i : Instance}
  {reply : Except Failure Response} {es : List Entry} {ds ds' : List Duration} {j j' j'' : Journal}

namespace Paces

/-- Nothing scheduled, nothing waited for. -/
theorem refl : Paces j j [] := ⟨(List.append_nil _).symm, (List.append_nil _).symm⟩

/-- Stretches of a call one after the other. -/
theorem trans (h : Paces j j' ds) (h' : Paces j' j'' ds') : Paces j j'' (ds ++ ds') where
  scheduled := by rw [h'.scheduled, h.scheduled, List.append_assoc]
  slept := by
    rw [h'.slept, h.slept, List.append_assoc, Journal.waits, Journal.waits, Journal.waits,
      List.filter_append]

/-- Entries without a pause, if no delay that they schedule is to be waited for. -/
theorem addAll (told : (Journal.ofList es).schedules = ds) (still : ∀ e ∈ es, e.isPause = false)
    (quick : Journal.waits ds = []) : Paces w.journal (w.addAll es).journal ds where
  scheduled := by
    rw [Journal.schedules_of_append World.toList_addAll, told]
    rfl
  slept := by
    rw [Journal.delays_of_append World.toList_addAll, Journal.delays_of_not_isPause still, quick]
    rfl

/-- Entries that schedule nothing. -/
theorem none (told : (Journal.ofList es).schedules = []) (still : ∀ e ∈ es, e.isPause = false) :
    Paces w.journal (w.addAll es).journal [] :=
  addAll told still rfl

end Paces

/-! ### A turn -/

/-- What a turn schedules, if it goes on in the context `c`: nothing if it is the last one and was
not cut short in its wait, and else one retry, with the delay that the policy computes in this
context. -/
inductive Pace (p : Policy) (c : Context) : List Duration → Turn σ → Prop where
  | quiet {o : Outcome} {w : World σ} : Pace p c [] (.over o w)
  | cut {words : Words} {w : World σ} :
      Pace p c [(p.delay c words).1] (.over (cancelledOutcome c) w)
  | again {words : Words} {w : World σ} : Pace p c [(p.delay c words).1] (.again c w)

/-- A wait is entered whether or not the token cuts it. -/
theorem sleep_delays {d : Duration} :
    (s.sleep w d).2.journal.delays = w.journal.delays ++ [d] := by
  cases h : s.cancelled (w.addAll [.slept d]) with
  | true => rw [sleep_of_fired h, Journal.delays_of_append World.toList_addAll]; rfl
  | false =>
      cases hs : s.sleeper with
      | recording => rw [sleep_of_recording h hs, Journal.delays_of_append World.toList_addAll]; rfl
      | timer =>
          cases hd : s.token.during (w.addAll [.slept d]).journal d with
          | some time =>
              rw [sleep_of_during h hs hd, Journal.delays_of_append World.toList_addAll]
              rfl
          | none =>
              rw [sleep_of_silent h hs hd, Journal.delays_of_append World.toList_addAll]
              rfl

/-- A wait schedules nothing. -/
theorem sleep_schedules {d : Duration} :
    (s.sleep w d).2.journal.schedules = w.journal.schedules := by
  obtain ⟨es, pauses, hw, -⟩ := s.sleep_pauses (w := w) (d := d)
  rw [hw, Journal.schedules_of_append World.toList_addAll, (Tells.pauses pauses).schedules,
    List.filterMap_nil, List.append_nil]
  rfl

/-- A retry is scheduled once, and waited for if there is a delay. -/
theorem pause_pace {same : Bool} :
    ∃ ds, Paces w.journal (s.pause p same c w).world.journal ds ∧
      Pace p c ds (s.pause p same c w) := by
  cases hf : s.cancelled w with
  | true =>
      rw [pause_of_fired hf]
      exact ⟨[], .refl, .quiet⟩
  | false =>
      rw [pause_of_live hf]
      generalize hd : (p.delay c w.words).1 = d
      have still : ∀ e ∈ s.scheduledEntries same c d, e.isPause = false :=
        List.forall_mem_cons.mpr ⟨rfl, emission_isPause⟩
      have hw : s.scheduled p same c w =
          ({ w with words := (p.delay c w.words).2 } : World σ).addAll
            (s.scheduledEntries same c d) := by rw [scheduled, hd]
      by_cases zero : d.nanos = 0
      · rw [if_pos zero, hw]
        have quick : Journal.waits [d] = [] := by simp [Journal.waits, zero]
        exact ⟨[d], .addAll tells_scheduledEntries.schedules still quick, hd ▸ .again⟩
      · rw [if_neg zero, hw]
        generalize hw₁ : ({ w with words := (p.delay c w.words).2 } : World σ).addAll
          (s.scheduledEntries same c d) = w₁
        have paces : Paces w.journal (s.sleep w₁ d).2.journal [d] := by
          refine ⟨?_, ?_⟩
          · rw [sleep_schedules, ← hw₁, Journal.schedules_of_append World.toList_addAll,
              tells_scheduledEntries.schedules]
            rfl
          · rw [sleep_delays, ← hw₁, Journal.delays_of_append World.toList_addAll,
              Journal.delays_of_not_isPause still, List.append_nil]
            simp [Journal.waits, Nat.pos_of_ne_zero zero]
        rcases hs : s.sleep w₁ d with ⟨_ | _, w₂⟩
        · rw [hs] at paces
          exact ⟨[d], paces, hd ▸ .again⟩
        · rw [hs] at paces
          exact ⟨[d], paces, hd ▸ .cut⟩

theorem asked_isPause {qs : List Question} : ∀ e ∈ qs.map Entry.asked, e.isPause = false :=
  List.forall_mem_map.mpr fun _ _ => rfl

/-- What follows a reply schedules one retry at most. -/
theorem weigh_pace : ∃ ds, Paces w.journal (s.weigh p c w i reply).world.journal ds ∧
    Pace p (c.after (p.move c)) ds (s.weigh p c w i reply) := by
  cases hv : p.verdict reply with
  | usable r =>
      rw [weigh_usable hv]
      refine ⟨[], .none (Tells.asked.append .emission).schedules ?_, .quiet⟩
      exact List.forall_mem_append.mpr ⟨asked_isPause, emission_isPause⟩
  | cancelled =>
      rw [weigh_cancelled hv]
      exact ⟨[], .none Tells.asked.schedules asked_isPause, .quiet⟩
  | fatal f =>
      rw [weigh_fatal hv]
      refine ⟨[], .none (Tells.asked.append Tells.nil.log).schedules ?_, .quiet⟩
      exact List.forall_mem_append.mpr ⟨asked_isPause, by simp [Entry.isPause]⟩
  | retryable last =>
      have failed : Paces w.journal (w.addAll (s.failedEntries p c i reply last)).journal [] :=
        .none tells_failedEntries.schedules failedEntries_isPause
      by_cases hm : p.move c = .giveUp
      · rw [weigh_retryable hv, hm]
        dsimp only
        by_cases one : c.attempts = 1
        · rw [giveUp_first one]
          exact ⟨[], failed, .quiet⟩
        · rw [giveUp_later one]
          refine ⟨[], failed.trans (.none Tells.emission.log.schedules ?_), .quiet⟩
          exact List.forall_mem_cons.mpr ⟨rfl, emission_isPause⟩
      · rw [weigh_granted hv hm]
        generalize w.addAll (s.failedEntries p c i reply last) = w₁ at failed ⊢
        obtain ⟨ds, paces, pace⟩ : ∃ ds, Paces w₁.journal
            (s.pause p (decide (p.move c = .same)) (c.after (p.move c)) w₁).world.journal ds ∧
            Pace p (c.after (p.move c)) ds
              (s.pause p (decide (p.move c = .same)) (c.after (p.move c)) w₁) := pause_pace
        exact ⟨ds, failed.trans paces, pace⟩

end Setup

/-! ### A run -/

/-- The `k`-th retry of a journal was scheduled with the delay that a policy computes after `k`
attempts, and the sleeper was asked for the delays that are not zero. -/
structure Policy.Times (p : Policy) (j : Journal) : Prop where
  timed : ∀ k d, j.schedules[k]? = some d → ∃ c words, c.attempts = k + 1 ∧ d = (p.delay c words).1
  slept : j.delays = Journal.waits j.schedules

namespace Setup

variable {σ : Type} {s : Setup σ} {p : Policy} {service : String} {raw : Request} {b : σ}
  {o : Outcome} {c c₁ : Context} {w w₁ w' : World σ} {i : Instance} {ds : List Duration}
  {j j' : Journal} {words : Words} {limit : Nat}

/-- The pace between two turns: every attempt so far was followed by a schedule. -/
structure Paced (s : Setup σ) (p : Policy) (raw : Request) (c : Context) (w : World σ) : Prop where
  times : p.Times w.journal
  attempts_eq : w.journal.attempts.length = c.attempts
  schedules_eq : w.journal.schedules.length = c.attempts
  bindable : ∀ i, c.bound = some i → ∃ r, s.pipeline.bind raw i (c.attempts + 1) = .ok r

/-- The pace at the end: only the last attempt was not followed by a schedule. -/
structure PacedTo (p : Policy) (o : Outcome) (w : World σ) : Prop where
  times : p.Times w.journal
  counted : w.journal.Concludes o → w.journal.attempts.length = w.journal.schedules.length + 1

/-- The pace after a turn. -/
def PacedAfter (s : Setup σ) (p : Policy) (raw : Request) : Turn σ → Prop
  | .again c w => s.Paced p raw c w
  | .over o w => PacedTo p o w

/-- A scheduled delay is timed by the retries that were scheduled before it. -/
theorem Paces.times (h : Paces j j' ds) (times : p.Times j)
    (next : ∀ d ∈ ds, ∃ c words, c.attempts = j.schedules.length + 1 ∧ d = (p.delay c words).1)
    (one : ds.length ≤ 1) : p.Times j' where
  timed k d hk := by
    rw [h.scheduled] at hk
    -- A retry scheduled between the two journals is the only one, and it comes next in order.
    rcases Nat.lt_or_ge k j.schedules.length with old | new
    · rw [List.getElem?_append_left old] at hk
      exact times.timed k d hk
    · rw [List.getElem?_append_right new] at hk
      have hd := List.mem_of_getElem? hk
      obtain ⟨hlt, -⟩ := List.getElem?_eq_some_iff.mp hk
      obtain rfl : k = j.schedules.length := by omega
      exact next d hd
  slept := by
    rw [h.slept, h.scheduled, times.slept, Journal.waits, Journal.waits, Journal.waits,
      List.filter_append]

theorem Paces.times_of_idle (h : Paces j j' []) (times : p.Times j) : p.Times j' :=
  h.times times (List.forall_mem_nil _) (Nat.zero_le 1)

/-- A selection schedules nothing. -/
theorem Target.paces (t : s.Target c w i c₁ w₁) : Paces w.journal w₁.journal [] := by
  cases t with
  | kept bound => exact .refl
  | @chosen b unbound live choice =>
      have told : (Journal.ofList (s.selectedEntries c i)).schedules = [] :=
        tells_selected.schedules
      have still : ∀ e ∈ s.selectedEntries c i, e.isPause = false :=
        List.forall_mem_cons.mpr ⟨rfl, List.forall_mem_cons.mpr ⟨rfl, emission_isPause⟩⟩
      exact .none told still

/-- An instance that the request cannot be bound to has just been chosen, so the balancer was asked
for it last, and not to send. -/
theorem Paced.not_concludes {f f' : Failure} {l : LogLine} (h : s.Paced p raw c w)
    (t : s.Target c w i c₁ w₁) (bind : s.pipeline.bind raw i (c₁.attempts + 1) = .error f) :
    ¬ (w₁.addAll [.logged l]).journal.Concludes (.error (.connectivity service f')) := by
  rintro ⟨service', j, r, last⟩
  cases t with
  | kept bound =>
      obtain ⟨r, hr⟩ := h.bindable i bound
      cases hr.symm.trans bind
  | chosen unbound live choice =>
      have chosen : (Journal.ofList (s.selectedEntries c i)).calls =
          [.chose c.service (some i)] := by
        simp [Journal.calls, selectedEntries, emission, Entry.isCall, List.filter_eq_nil_iff]
      rw [Journal.calls_of_append World.toList_addAll, Journal.ofList_toList,
        Journal.calls_of_append World.toList_addAll, chosen] at last
      simp [Journal.calls, Entry.isCall] at last

/-- An attempt with what follows it keeps the pace. -/
theorem Paced.attempted {m : Move} {r : Request} {t : Turn σ} (h : s.Paced p raw c w)
    (target : s.Target c w i c₁ w₁) (bind : s.pipeline.bind raw i (c₁.attempts + 1) = .ok r)
    (attempts : t.world.journal.attempts.length = c.attempts + 1)
    (paces : Paces w.journal t.world.journal ds) (pace : Pace p (c₁.recordAttempt.after m) ds t) :
    s.PacedAfter p raw t := by
  have bound : c₁.recordAttempt.bound = some i := target.bound_eq
  -- The delay is computed after an instance has been released, which leaves the attempts counted.
  have recorded : (c₁.recordAttempt.after m).attempts = c.attempts + 1 := by
    rw [Context.attempts_after]
    exact congrArg (· + 1) target.attempts_eq
  have next (words : Words) : ∀ d ∈ [(p.delay (c₁.recordAttempt.after m) words).1],
      ∃ c words, c.attempts = w.journal.schedules.length + 1 ∧ d = (p.delay c words).1 :=
    List.forall_mem_singleton.mpr ⟨_, words, by rw [recorded, h.schedules_eq], rfl⟩
  have schedules := congrArg List.length paces.scheduled
  rw [List.length_append, h.schedules_eq] at schedules
  cases pace with
  | quiet =>
      refine ⟨paces.times_of_idle h.times, fun _ => ?_⟩
      exact attempts.trans (congrArg (· + 1) schedules.symm)
  | @cut words w' => exact ⟨paces.times h.times (next words) (Nat.le_refl 1), False.elim⟩
  | @again words w' =>
      refine ⟨paces.times h.times (next words) (Nat.le_refl 1), ?_, ?_, fun j hj => ?_⟩
      · rw [recorded]
        exact attempts
      · rw [recorded]
        exact schedules
      · obtain rfl : i = j := Option.some.inj (bound.symm.trans (Context.bound_of_after hj))
        exact Pipeline.bind_isOk_iff.mp ⟨r, bind⟩

/-- A turn keeps the pace. -/
theorem turn_paced (h : s.Paced p raw c w) : s.PacedAfter p raw (s.turn p raw c w) := by
  have turn : s.TurnCase p raw c w (s.turn p raw c w) := turn_case
  generalize s.turn p raw c w = t at *
  cases turn with
  | fired unbound fired => exact ⟨h.times, False.elim⟩
  | @empty b unbound live choice =>
      have paces : Paces w.journal (({ w with balancer := b } : World σ).addAll
          [.chose c.service none, .logged (noInstanceLine c)]).journal [] :=
        .none rfl (by simp [Entry.isPause])
      exact ⟨paces.times_of_idle h.times, False.elim⟩
  | @unaddressable i c₁ w₁ f target bind =>
      have logged (l : LogLine) : Paces w₁.journal (w₁.addAll [.logged l]).journal [] :=
        .none rfl (by simp [Entry.isPause])
      have paces := target.paces.trans (logged (bindFailureLine i (c₁.attempts + 1) f))
      exact ⟨paces.times_of_idle h.times, fun concludes =>
        absurd concludes (h.not_concludes target bind)⟩
  | @attempted i c₁ w₁ r reply b t target bind answer reaction weighed =>
      generalize hw : ({ w₁ with balancer := b } : World σ).addAll
        [.attempted c₁.service i r] = w₂ at reaction weighed
      obtain ⟨ds, weighs, pace⟩ : ∃ ds, Paces w₂.journal t.world.journal ds ∧
          Pace p (c₁.recordAttempt.after (p.move c₁.recordAttempt)) ds t := weighed ▸ weigh_pace
      have sent : Paces w₁.journal w₂.journal [] := by
        rw [← hw]
        exact .none rfl (by simp [Entry.isPause])
      have attempts : t.world.journal.attempts.length = c.attempts + 1 := by
        rw [reaction.journal_attempts, ← hw, ← h.attempts_eq, ← target.journal_attempts]
        exact World.length_attempts_attempted
      exact h.attempted target bind attempts (target.paces.trans (sent.trans weighs)) pace

/-- So do the turns of a call. -/
theorem turns_paced (h : s.Paced p raw c w)
    (run : s.turns p raw limit c w = some (o, w')) : PacedTo p o w' := by
  induction limit generalizing c w with
  | zero => cases run
  | succ limit ih =>
      rw [turns] at run
      have step : s.PacedAfter p raw (s.turn p raw c w) := turn_paced h
      generalize s.turn p raw c w = t at *
      rcases t with ⟨c', w₁⟩ | ⟨o', w₁⟩
      · exact ih step run
      · cases run
        exact step

/-- A bypassed call schedules nothing, and waits for nothing. -/
theorem bypass_idle : Paces w.journal (s.bypass p service raw w).2.journal [] := by
  have told : (s.bypass p service raw w).2.journal.events =
      w.journal.events ++ [.bypassed service raw.method.name (bypassReason p)] := bypass_events
  rcases h : s.bypass p service raw w with ⟨o, w'⟩
  rw [h] at told
  obtain ⟨pre, tail, hj, notes, once⟩ := bypass_once h
  have still : ∀ e ∈ pre ++ .combined service :: tail, e.isPause = false := by
    refine List.forall_mem_append.mpr ⟨fun e he => ?_, List.forall_mem_cons.mpr ⟨rfl, ?_⟩⟩
    · exact Entry.isPause_of_not_isMoment (Entry.isMoment_of_isNote (notes e he))
    · cases once <;> simp [Entry.isPause]
  refine ⟨?_, ?_⟩
  · rw [Journal.schedules, told, List.filterMap_append]
    rfl
  · rw [Journal.delays_of_append hj, Journal.delays_of_not_isPause still]
    rfl

/-- A bypassed call makes one attempt at most. -/
theorem bypass_attempts :
    (s.bypass p service raw w).2.journal.attempts.length ≤ w.journal.attempts.length + 1 := by
  have gives : (s.balancer.once s.pipeline service raw w.balancer).Gives w
      (s.bypass p service raw w) := bypass_gives
  have once : (s.balancer.once s.pipeline service raw w.balancer).attempts.length ≤ 1 := by
    rcases Balancer.once_attempts with none | ⟨i, r, -, one⟩
    · rw [none]
      exact Nat.zero_le 1
    · rw [one]
      exact Nat.le_refl 1
  rw [gives.agrees.attempts, List.length_append]
  omega

/-- The pace of a whole call, under any policy. -/
theorem executeRetrying_times
    (run : s.executeRetrying limit p service raw (.start b words) = some (o, w)) :
    p.Times w.journal ∧
      (p.admits raw.method = true → w.journal.Concludes o →
        w.journal.attempts.length = w.journal.schedules.length + 1) ∧
      (p.admits raw.method = false →
        w.journal.schedules = [] ∧ w.journal.attempts.length ≤ 1) := by
  have idle : p.Times (World.start b words).journal := ⟨fun k d hk => (by cases hk), rfl⟩
  cases fired : s.cancelled (.start b words) with
  | true =>
      rw [executeRetrying, if_pos fired] at run
      cases run
      exact ⟨idle, fun _ => False.elim, fun _ => ⟨rfl, Nat.zero_le 1⟩⟩
  | false =>
      have asked (answer : Bool) : Paces (World.start b words).journal
          ((World.start b words).ask [.admits raw.method answer]).journal [] :=
        .none Tells.asked.schedules asked_isPause
      cases admits : p.admits raw.method with
      | true =>
          rw [executeRetrying_of_admits fired admits] at run
          have paced : s.Paced p raw (.fresh service)
              ((World.start b words).ask [.admits raw.method true]) :=
            ⟨(asked true).times_of_idle idle, rfl, rfl, fun _ unbound => by cases unbound⟩
          obtain ⟨times, counted⟩ := turns_paced paced run
          exact ⟨times, fun _ => counted, fun refuses => absurd refuses.symm Bool.false_ne_true⟩
      | false =>
          rw [executeRetrying_of_refuses fired admits] at run
          generalize hw : (World.start b words).ask [.admits raw.method false] = w₁ at run
          have bypassed : Paces (World.start b words).journal
              (s.bypass p service raw w₁).2.journal [] :=
            hw ▸ (asked false).trans bypass_idle
          have attempts : (s.bypass p service raw w₁).2.journal.attempts.length ≤ 1 :=
            hw ▸ bypass_attempts
          rw [Option.some.inj run] at bypassed attempts
          exact ⟨bypassed.times_of_idle idle, fun admits => absurd admits Bool.false_ne_true,
            fun _ => ⟨bypassed.scheduled, attempts⟩⟩

end Setup

/-! ### Under a configuration -/

/-- The pace that a configuration sets.  Without a backoff nothing is waited for; with one, the
`k`-th retry of the call waits the `k`-th delay of the backoff, or one that jitter leaves of it. -/
structure Policy.Configured.Paces (d : Configured) (j : Journal) : Prop where
  idle : d.config.backoff.enabled = false →
    (∀ delay ∈ j.schedules, delay = .zero) ∧ j.delays = []
  backed : d.config.backoff.enabled = true → ∃ b, d.backoff = some b ∧
    (∀ k delay, j.schedules[k]? = some delay → b.InWindow (k + 1) delay) ∧
    j.delays = j.schedules.filter (fun delay => 0 < delay.nanos) ∧
    ((b.jitter == 0) = true →
      (∀ k delay, j.schedules[k]? = some delay →
        delay = b.delay (k + 1) ∧ delay = .min ⟨b.min.nanos * 2 ^ k⟩ b.max ∧ 0 < delay.nanos) ∧
      j.delays = j.schedules)

namespace Policy.Configured

variable {d : Configured} {j : Journal}

/-- Without them there is none. -/
theorem backoff_eq_none (off : d.config.backoff.enabled = false) : d.backoff = none := by
  have h := d.backoff_eq
  rw [BackoffConfig.toBackoff, off] at h
  exact (Except.ok.inj h).symm

/-- Delays that are switched on have a backoff. -/
theorem exists_backoff (on : d.config.backoff.enabled = true) : ∃ b, d.backoff = some b := by
  have h := d.backoff_eq
  rw [BackoffConfig.toBackoff, if_pos on] at h
  split at h
  · exact ⟨_, (Except.ok.inj h).symm⟩
  · cases h

/-- Delays that are computed from the attempts are the delays of the backoff, in their order. -/
theorem paces_of_times (h : (ofConfigured d).Times j) : d.Paces j where
  idle off := by
    have none := backoff_eq_none off
    have zero : ∀ delay ∈ j.schedules, delay = .zero := by
      intro delay hd
      obtain ⟨k, hk⟩ := List.mem_iff_getElem?.mp hd
      obtain ⟨c, words, -, rfl⟩ := h.timed k delay hk
      simp only [ofConfigured, none]
    refine ⟨zero, ?_⟩
    rw [h.slept, Journal.waits, List.filter_eq_nil_iff]
    intro delay hd
    rw [zero delay hd]
    decide
  backed on := by
    obtain ⟨b, hb⟩ := exists_backoff on
    have jittered {k : Nat} {delay : Duration} (hk : j.schedules[k]? = some delay) :
        ∃ words, delay = (b.jittered (k + 1) words).1 := by
      obtain ⟨c, words, hc, rfl⟩ := h.timed k delay hk
      exact ⟨words, by simp only [ofConfigured, hb, hc]⟩
    refine ⟨b, hb, fun k delay hk => ?_, h.slept, fun plain => ?_⟩
    · obtain ⟨words, rfl⟩ := jittered hk
      exact Backoff.jittered_inWindow
    · have delays (k : Nat) (delay : Duration) (hk : j.schedules[k]? = some delay) :
          delay = b.delay (k + 1) := by
        obtain ⟨words, rfl⟩ := jittered hk
        rw [Backoff.jittered_of_zero plain]
      refine ⟨fun k delay hk => ?_, ?_⟩
      · obtain rfl := delays k delay hk
        exact ⟨rfl, Backoff.delay_succ, Backoff.delay_succ_pos⟩
      · rw [h.slept, Journal.waits, List.filter_eq_self]
        intro delay hd
        obtain ⟨k, hk⟩ := List.mem_iff_getElem?.mp hd
        rw [delays k delay hk]
        exact decide_eq_true Backoff.delay_succ_pos

end Policy.Configured

/-- A configuration with two attempts on an instance, and delays from 5 to 15 milliseconds. -/
def RetryConfig.paced : RetryConfig :=
  { RetryConfig.default with sameInstance := 2, backoff := ⟨true, 5, some 15, 0⟩ }

/-- Its backoff. -/
def Backoff.paced : Backoff := ⟨.ofMillis 5, .ofMillis 15, 0, by decide, by decide, by decide⟩

theorem BackoffConfig.toBackoff_paced :
    RetryConfig.paced.backoff.toBackoff = .ok (some .paced) := rfl

/-- The checked form of that configuration. -/
def Policy.Configured.paced : Policy.Configured where
  config := .paced
  backoff := some .paced
  classifier := none
  valid := by
    rw [RetryConfig.validate, BackoffConfig.toBackoff_paced]
    rfl
  backoff_eq := BackoffConfig.toBackoff_paced

namespace Setup

variable {σ : Type} {s : Setup σ} {d : Policy.Configured} {service : String} {raw : Request} {b : σ}
  {o : Outcome} {w : World σ} {words : Words} {limit : Nat}

/-- **The delays of a call follow its retries**, wherever they are made and whenever the token
fires.  A call that ends with a reply has scheduled one retry less than it has made attempts; one
that is bypassed schedules none. -/
theorem executeRetrying_paced
    (run : s.executeRetrying limit (.ofConfigured d) service raw (.start b words) = some (o, w)) :
    d.Paces w.journal ∧
      ((Policy.ofConfigured d).admits raw.method = true → w.journal.Concludes o →
        w.journal.attempts.length = w.journal.schedules.length + 1) ∧
      ((Policy.ofConfigured d).admits raw.method = false →
        w.journal.schedules = [] ∧ w.journal.attempts.length ≤ 1) := by
  obtain ⟨times, counted, bypassed⟩ := executeRetrying_times run
  exact ⟨Policy.Configured.paces_of_times times, counted, bypassed⟩

/-- Two attempts on each of two instances: the third delay is the longest there may be, and no delay
starts anew with the second instance. -/
theorem executeRetrying_paced_failover : ∃ o w,
    (Setup.sample .never).executeRetrying 4 (.ofConfigured .paced) "users" .sample
        (.start (.sample (List.replicate 3 (.error ⟨.reset, "closed"⟩))) (.constant 0)) =
      some (o, w) ∧
    w.journal.attempts.map (·.2.1.id) = ["a", "a", "b", "b"] ∧
    w.journal.schedules = [.ofMillis 5, .ofMillis 10, .ofMillis 15] ∧
    w.journal.delays = w.journal.schedules ∧ Policy.Configured.paced.Paces w.journal := by
  have made : ((Setup.sample .never).executeRetrying 4 (.ofConfigured .paced) "users" .sample
      (.start (.sample (List.replicate 3 (.error ⟨.reset, "closed"⟩))) (.constant 0))).map
        (fun x => (x.2.journal.attempts.map (·.2.1.id), x.2.journal.schedules,
          x.2.journal.delays)) =
      some (["a", "a", "b", "b"], [.ofMillis 5, .ofMillis 10, .ofMillis 15],
        [.ofMillis 5, .ofMillis 10, .ofMillis 15]) := by
    decide +kernel
  obtain ⟨⟨o, w⟩, run, seen⟩ := Option.map_eq_some_iff.mp made
  obtain ⟨attempts, seen⟩ := Prod.mk.inj seen
  obtain ⟨schedules, delays⟩ := Prod.mk.inj seen
  exact ⟨o, w, run, attempts, schedules, delays.trans schedules.symm, (executeRetrying_paced run).1⟩

end Setup

end Failover
