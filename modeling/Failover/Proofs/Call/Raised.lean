import Failover.Proofs.Call.Account
import Failover.Proofs.Call.Bypass

/-!
# Calls — under a raised budget

Of two configurations one may allow more further instances than the other and be the same in all
else.  A call that does not spend the smaller budget is then the same call under both, entry by
entry.  One that spends it goes on under the raised budget with another selection, and from there on
adds attempts to those that were made, unless it comes to none.

* `Policy.Configured.Raised`: the raised budget; `Policy.Configured.Spent`: one that is spent.
* `turn_raised`: one turn under each configuration.
* `turns_further`: what a call adds after its next selection.
* `executeRetrying_raised`: the whole call under each.
-/

namespace Failover

namespace Policy

/-! ### The raised budget -/

/-- A configuration allows more further instances than another, and is the same in all else. -/
structure Configured.Raised (d d' : Configured) : Prop where
  config : d'.config = { d.config with nextInstance := d'.config.nextInstance }
  classifier : d'.classifier = d.classifier
  more : d.config.nextInstance < d'.config.nextInstance

/-- Both budgets are spent: the last attempt that they allow failed, and was worth a retry. -/
def Configured.Spent (d : Configured) (service : String) (j : Journal) : Prop :=
  ∃ id text, .attemptFailed service id d.budget text ∈ j.events

/-- The policy with another answer to whether a call may move on. -/
def withNext (p : Policy) (allowsNext : Context → Bool) : Policy :=
  { p with allowsNext := allowsNext }

variable {d d' : Configured} {p : Policy} {c : Context} {allowsNext : Context → Bool}

theorem Configured.Raised.same_eq (h : d.Raised d') :
    d'.config.sameInstance = d.config.sameInstance := by
  rw [h.config]

/-- Nothing but the answer whether to move on differs. -/
theorem Configured.Raised.policy_eq (h : d.Raised d') :
    ofConfigured d' = (ofConfigured d).withNext (ofConfigured d').allowsNext := by
  have backoff : d'.backoff = d.backoff := by
    have same : d'.config.backoff = d.config.backoff := by rw [h.config]
    have heq := d'.backoff_eq
    rw [same, d.backoff_eq] at heq
    exact (Except.ok.inj heq).symm
  have failure : d'.retriesFailure = d.retriesFailure := by
    funext f
    rw [Configured.retriesFailure, Configured.retriesFailure, h.classifier, h.config]
  rw [withNext, ofConfigured, ofConfigured, backoff, failure, h.config]

/-- Where a call goes on, a policy that lets calls move on more often sends it the same way. -/
theorem move_withNext (wider : ∀ c, p.allowsNext c = true → allowsNext c = true)
    (move : p.move c ≠ .giveUp) :
    (p.withNext allowsNext).move c = p.move c ∧
      (p.withNext allowsNext).moveQuestions c = p.moveQuestions c := by
  have same : (p.withNext allowsNext).allowsSame c = p.allowsSame c := rfl
  have next : (p.withNext allowsNext).allowsNext c = allowsNext c := rfl
  unfold Policy.move Policy.moveQuestions
  rw [same, next]
  cases hs : p.allowsSame c with
  | true => exact ⟨rfl, rfl⟩
  | false =>
      cases hn : p.allowsNext c with
      | true =>
          rw [wider c hn]
          exact ⟨rfl, rfl⟩
      | false =>
          rw [Policy.move, hs, hn] at move
          exact absurd rfl move

/-- A raised budget allows every move to a next instance that the smaller one allows. -/
theorem Configured.Raised.wider (h : d.Raised d') (c : Context)
    (next : (ofConfigured d).allowsNext c = true) : (ofConfigured d').allowsNext c = true := by
  have more : d.config.nextInstance.toNat < d'.config.nextInstance.toNat :=
    UInt64.lt_iff_toNat_lt.mp h.more
  simp only [ofConfigured, decide_eq_true_eq] at next ⊢
  omega

/-- Where a call gives up, a raised budget sends it to the next instance. -/
theorem Configured.Raised.move_eq_next (h : d.Raised d') (fits : d.Fits c)
    (move : (ofConfigured d).move c = .giveUp) : (ofConfigured d').move c = .next := by
  have more : d.config.nextInstance.toNat < d'.config.nextInstance.toNat :=
    UInt64.lt_iff_toNat_lt.mp h.more
  have used : ¬ c.sameAttempts < d.config.sameInstance.toNat := fun hs =>
    nomatch (move_eq_same_iff.mpr hs).symm.trans move
  have hs := fits.selections_le
  rw [move_eq_next_iff, h.same_eq]
  omega

theorem retriesFailure_of_fatal {reply : Except Failure Response} {f : Failure}
    (h : p.verdict reply = .fatal f) : p.retriesFailure f = false := by
  unfold verdict at h
  cases reply with
  | ok r =>
      dsimp only at h
      split at h <;> cases h
  | error f' =>
      dsimp only at h
      split at h
      · cases h
      · split at h
        · cases h
        · rename_i other
          cases h
          exact Bool.eq_false_iff.mpr other

end Policy

namespace Setup

variable {σ : Type} {s : Setup σ} {d d' : Policy.Configured} {p : Policy} {service : String}
  {raw : Request} {b : σ} {o o' : Outcome} {c c₁ : Context} {w w₁ w₂ w' : World σ} {i : Instance}
  {reply : Except Failure Response} {last : LastOutcome} {es : List Entry} {limit k : Nat}
  {selected : List Instance} {words : Words} {allowsNext : Context → Bool}

/-! ### What the budget does not touch -/

/-- A reply is weighed the same unless the call gives up. -/
theorem weigh_withNext (wider : ∀ c, p.allowsNext c = true → allowsNext c = true)
    (goes : ∀ last, p.verdict reply = .retryable last → p.move c ≠ .giveUp) :
    s.weigh (p.withNext allowsNext) c w i reply = s.weigh p c w i reply := by
  cases hv : p.verdict reply with
  | usable r =>
      rw [weigh_usable hv, weigh_usable (p := p.withNext allowsNext) hv]
      rfl
  | cancelled =>
      rw [weigh_cancelled hv, weigh_cancelled (p := p.withNext allowsNext) hv]
      rfl
  | fatal f =>
      rw [weigh_fatal hv, weigh_fatal (p := p.withNext allowsNext) hv]
      rfl
  | retryable last =>
      obtain ⟨move, questions⟩ := Policy.move_withNext wider (goes last hv)
      have failed : s.failedEntries (p.withNext allowsNext) c i reply last =
          s.failedEntries p c i reply last := by
        rw [failedEntries, failedEntries, questions]
        rfl
      rw [weigh_granted hv (goes last hv), weigh_granted (p := p.withNext allowsNext) hv
        (by rw [move]; exact goes last hv), move, failed]
      rfl

/-- As long as the token does not fire, a retry that is granted leads to the next turn. -/
theorem weigh_onward (silent : ¬ s.token.Fires) (verdict : p.verdict reply = .retryable last)
    (move : p.move c ≠ .giveUp) :
    ∃ words es events, Tells es events ∧ s.weigh p c w i reply =
      .again (c.after (p.move c)) (({ w with words := words } : World σ).addAll es) := by
  have reaction : s.Reaction p c w i reply (s.weigh p c w i reply) := weigh_reaction
  generalize s.weigh p c w i reply = t at *
  cases reaction with
  | usable verdict' tells => cases verdict.symm.trans verdict'
  | cancelled verdict' tells => cases verdict.symm.trans verdict'
  | fatal verdict' tells => cases verdict.symm.trans verdict'
  | single verdict' move' one tells => exact absurd move' move
  | spent verdict' move' more tells => exact absurd move' move
  | interrupted verdict' move' fired undelayed tells => exact absurd (.inl ⟨_, fired⟩) silent
  | cut verdict' move' fires scheduling => exact absurd fires silent
  | again verdict' move' scheduling =>
      obtain ⟨delay, tells⟩ := scheduling.tells
      exact ⟨_, _, _, tells, rfl⟩

/-! ### The events of failed attempts -/

/-- A budget that is not spent stays so with entries that do not tell of its last attempt. -/
theorem unspent_addAll (unspent : ¬ d.Spent service w.journal)
    (other : ∀ id text, .attemptFailed service id d.budget text ∉ Journal.eventsIn es) :
    ¬ d.Spent service (w.addAll es).journal := by
  rintro ⟨id, text, h⟩
  rw [World.events_addAll, List.mem_append] at h
  rcases h with h | h
  · exact unspent ⟨id, text, h⟩
  · exact other id text h

/-- Between two turns the next attempt is attempt `k`, and the budget is not spent. -/
structure Level (d : Policy.Configured) (service : String) (k : Nat) (selected : List Instance)
    (c : Context) (w : World σ) : Prop where
  ready : Ready d k selected c
  service_eq : c.service = service
  counted : w.journal.attempts.length + 1 = k
  unspent : ¬ d.Spent service w.journal

/-- A call came to something other than an outcome worth a retry; a failure worth one can only mean
that the request could not be bound. -/
def Settles (s : Setup σ) (d : Policy.Configured) (raw : Request) : Outcome → Prop
  | .ok r => (Policy.ofConfigured d).retriesStatus r.status = false
  | .error (.budgetExhausted ..) => False
  | .error (.connectivity _ f) =>
    d.retriesFailure f = false ∨ ∃ i k, s.pipeline.bind raw i k = .error f
  | .error _ => True

/-- How a turn and the same turn under a raised budget compare: both are the same, unless the former
spends its budget and the latter goes on to the next instance. -/
inductive Parallel (s : Setup σ) (d : Policy.Configured) (service : String) (raw : Request) :
    Turn σ → Turn σ → Prop where
  | onward {k : Nat} {selected : List Instance} {c : Context} {w : World σ}
      (level : Level d service k selected c w) : Parallel s d service raw (.again c w) (.again c w)
  | ended {o : Outcome} {w : World σ} (unspent : ¬ d.Spent service w.journal)
      (settles : s.Settles d raw o) : Parallel s d service raw (.over o w) (.over o w)
  | parted {o : Outcome} {w : World σ} {c' : Context} {w' : World σ} {distinct : Nat}
      {reply : Except Failure Response} {last : LastOutcome} (spent : d.Spent service w.journal)
      (verdict : (Policy.ofConfigured d).verdict reply = .retryable last)
      (outcome : o = flatSpent d service distinct reply) (unbound : c'.bound = none)
      (service_eq : c'.service = service) (counted : w.journal.attempts.length = d.budget)
      (next : c'.attempts = d.budget) (attempts : w'.journal.attempts = w.journal.attempts)
      (choices : w'.journal.choices = w.journal.choices) :
      Parallel s d service raw (.over o w) (.again c' w')

/-- Where the budget is spent the raised one leads to the next instance. -/
theorem weigh_parted (raised : d.Raised d') (silent : ¬ s.token.Fires)
    (under : Under d k selected c) (service_eq : c.service = service)
    (counted : w.journal.attempts.length = k)
    (verdict : (Policy.ofConfigured d).verdict reply = .retryable last)
    (move : (Policy.ofConfigured d).move c = .giveUp) :
    s.Parallel d service raw (s.weigh (.ofConfigured d) c w i reply)
      (s.weigh (.ofConfigured d') c w i reply) := by
  subst service_eq
  have next := raised.move_eq_next under.fits move
  have verdict' : (Policy.ofConfigured d').verdict reply = .retryable last := by
    rw [raised.policy_eq]
    exact verdict
  obtain ⟨words, es', events', tells', onward⟩ := s.weigh_onward (w := w) (i := i) silent verdict'
    (by rw [next]; nofun)
  rw [onward, next]
  have budget : c.attempts = d.budget := under.attempts_eq.trans (under.budget_eq move).symm
  have parted {o : Outcome} {es : List Entry} {events : List Event} (tells : Tells es events)
      (failed : .attemptFailed c.service i.id c.attempts last.text ∈ events)
      (outcome : o = flatSpent d c.service (distinctCount selected) reply) :
      s.Parallel d c.service raw (.over o (w.addAll es)) (.again (c.after .next)
        (({ w with words := words } : World σ).addAll es')) := by
    refine .parted ⟨i.id, last.text, ?_⟩ verdict outcome rfl rfl ?_ budget ?_ ?_
    · rw [World.events_addAll, tells.told, ← budget]
      exact List.mem_append_right _ failed
    · rw [tells.journal_attempts, counted, under.budget_eq move]
    · rw [tells'.journal_attempts, tells.journal_attempts]
    · rw [tells'.journal_choices, tells.journal_choices]
  have reaction : s.Reaction (.ofConfigured d) c w i reply
      (s.weigh (.ofConfigured d) c w i reply) := weigh_reaction
  generalize s.weigh (.ofConfigured d) c w i reply = t at *
  cases reaction with
  | usable verdict' tells => cases verdict.symm.trans verdict'
  | cancelled verdict' tells => cases verdict.symm.trans verdict'
  | fatal verdict' tells => cases verdict.symm.trans verdict'
  | single verdict' move' one tells =>
      cases verdict.symm.trans verdict'
      exact parted tells List.mem_cons_self (under.spent_of_single verdict move one)
  | spent verdict' move' more tells =>
      cases verdict.symm.trans verdict'
      exact parted tells List.mem_cons_self (under.spent_of_more verdict move more)
  | interrupted verdict' move' fired undelayed tells => exact absurd move move'
  | cut verdict' move' fires scheduling => exact absurd move move'
  | again verdict' move' scheduling => exact absurd move move'

/-- Elsewhere the raised budget makes no difference, and the budget stays unspent. -/
theorem weigh_parallel (silent : ¬ s.token.Fires)
    (under : Under d k selected c) (service_eq : c.service = service)
    (counted : w.journal.attempts.length = k) (unspent : ¬ d.Spent service w.journal)
    (goes : ∀ last, (Policy.ofConfigured d).verdict reply = .retryable last →
      (Policy.ofConfigured d).move c ≠ .giveUp) :
    s.Parallel d service raw (s.weigh (.ofConfigured d) c w i reply)
      (s.weigh (.ofConfigured d) c w i reply) := by
  have reaction : s.Reaction (.ofConfigured d) c w i reply
      (s.weigh (.ofConfigured d) c w i reply) := weigh_reaction
  generalize s.weigh (.ofConfigured d) c w i reply = t at *
  cases reaction with
  | usable verdict tells =>
      exact .ended (unspent_addAll unspent (by simp [tells.told]))
        (Policy.verdict_eq_usable_iff.mp verdict).2
  | cancelled verdict tells =>
      exact .ended (unspent_addAll unspent (by simp [tells.told])) trivial
  | fatal verdict tells =>
      exact .ended (unspent_addAll unspent (by simp [tells.told]))
        (.inl (Policy.retriesFailure_of_fatal verdict))
  | single verdict move one tells => exact absurd move (goes _ verdict)
  | spent verdict move more tells => exact absurd move (goes _ verdict)
  | interrupted verdict move fired undelayed tells => exact absurd (.inl ⟨_, fired⟩) silent
  | cut verdict move fires scheduling => exact absurd fires silent
  | again verdict move scheduling =>
      obtain ⟨delay, tells⟩ := scheduling.tells
      have below : c.attempts ≠ d.budget :=
        Nat.ne_of_lt ((Policy.move_ne_giveUp_iff under.fits).mp move)
      refine .onward ⟨Ready.after under move, Context.service_after.trans service_eq, ?_, ?_⟩
      · rw [tells.journal_attempts]
        exact congrArg (· + 1) counted
      · refine unspent_addAll (w := { w with words := _ }) unspent ?_
        simp [tells.told, below.symm]

/-- A selection spends nothing. -/
theorem Target.unspent (target : s.Target c w i c₁ w₁) (unspent : ¬ d.Spent service w.journal) :
    ¬ d.Spent service w₁.journal := by
  cases target with
  | kept bound => exact unspent
  | chosen unbound live choice =>
      refine unspent_addAll (w := { w with balancer := _ }) unspent ?_
      have told : Journal.eventsIn (s.selectedEntries c i) =
          [.instanceSelected c.service i.id (c.bind i).distinct] := tells_selected.told
      simp [told]

/-- **A turn is the same under a raised budget**, or it is the one that spends the smaller one. -/
theorem turn_raised (raised : d.Raised d') (silent : ¬ s.token.Fires)
    (level : Level d service k selected c w) :
    s.Parallel d service raw (s.turn (.ofConfigured d) raw c w)
      (s.turn (.ofConfigured d') raw c w) := by
  have turn : s.TurnCase (.ofConfigured d) raw c w (s.turn (.ofConfigured d) raw c w) := turn_case
  generalize s.turn (.ofConfigured d) raw c w = t at *
  cases turn with
  | fired unbound fired => exact absurd (.inl ⟨_, fired⟩) silent
  | @empty b unbound live choice =>
      simp only [Setup.turn, select_of_none unbound live choice]
      exact .ended (unspent_addAll (w := { w with balancer := b }) level.unspent
        (by simp [Journal.eventsIn, Journal.eventOf?])) trivial
  | @unaddressable i c₁ w₁ f target bind =>
      rw [target.turn_eq, attempt_of_error bind]
      exact .ended (unspent_addAll (target.unspent level.unspent)
        (by simp [Journal.eventsIn, Journal.eventOf?])) (.inr ⟨i, _, bind⟩)
  | @attempted i c₁ w₁ r reply b t target bind answer reaction weighed =>
      obtain ⟨choices, selected', hc, under, hchoices, hattempts⟩ :=
        target.flatChoice level.ready
      rw [target.turn_eq, attempt_of_ok bind answer, ← weighed]
      generalize hw : ({ w₁ with balancer := b } : World σ).addAll
        [.attempted c₁.service i r] = w₂
      have service_eq : c₁.recordAttempt.service = service :=
        target.service_eq.trans level.service_eq
      have counted : w₂.journal.attempts.length = k := by
        rw [← hw, ← level.counted, ← target.journal_attempts]
        exact World.length_attempts_attempted
      have unspent : ¬ d.Spent service w₂.journal := by
        rw [← hw]
        exact unspent_addAll (w := { w₁ with balancer := b }) (target.unspent level.unspent)
          (by simp [Journal.eventsIn, Journal.eventOf?])
      -- Both turns weigh the same reply, and only where the one gives up does the budget matter.
      by_cases goes : ∀ last, (Policy.ofConfigured d).verdict reply = .retryable last →
          (Policy.ofConfigured d).move c₁.recordAttempt ≠ .giveUp
      · rw [raised.policy_eq, weigh_withNext raised.wider goes]
        exact weigh_parallel silent under service_eq counted unspent goes
      · obtain ⟨last, goes⟩ := Classical.not_forall.mp goes
        obtain ⟨verdict, move⟩ := Classical.not_imp.mp goes
        exact weigh_parted raised silent under service_eq counted verdict
          (Decidable.not_not.mp move)

/-! ### After the budget is spent -/

/-- A call goes on from one journal to another: it adds attempts, unless its next selection offers
no instance or one that the request cannot be bound to. -/
structure Furthers (s : Setup σ) (service : String) (raw : Request) (j : Journal) (o : Outcome)
    (j' : Journal) : Prop where
  attempts : j.attempts <+: j'.attempts
  stuck : j'.attempts = j.attempts →
    (j'.choices = j.choices ++ [none] ∧ o = .error (.noInstanceAvailable service)) ∨
    ∃ i f, j'.choices = j.choices ++ [some i] ∧
      s.pipeline.bind raw i (j.attempts.length + 1) = .error f ∧
      o = .error (.connectivity service f)

/-- What a call adds that is about to select an instance. -/
theorem turns_further (silent : ¬ s.token.Fires) (unbound : c.bound = none)
    (counted : c.attempts = w.journal.attempts.length)
    (run : s.turns p raw limit c w = some (o, w')) :
    s.Furthers c.service raw w.journal o w'.journal := by
  cases limit with
  | zero => cases run
  | succ limit =>
      have grows := (turns_extends run).filterMap Journal.attemptOf?
      refine ⟨grows, fun none => ?_⟩
      rw [turns] at run
      have turn : s.TurnCase p raw c w (s.turn p raw c w) := turn_case
      generalize s.turn p raw c w = t at *
      cases turn with
      | fired unbound' fired => exact absurd (.inl ⟨_, fired⟩) silent
      | empty unbound' live choice =>
          cases run
          exact .inl ⟨World.choices_addAll, rfl⟩
      | @unaddressable i c₁ w₁ f target bind =>
          cases run
          cases target with
          | kept bound => cases bound.symm.trans unbound
          | chosen unbound' live choice =>
              have bind : s.pipeline.bind raw i (c.attempts + 1) = .error f := bind
              rw [counted] at bind
              refine .inr ⟨i, f, ?_, bind, rfl⟩
              rw [Tells.nil.log.journal_choices, World.choices_addAll, selectedEntries_choices]
      | @attempted i c₁ w₁ r reply b t target bind answer reaction weighed =>
          -- The attempt of this turn is one of those that the run made.
          have made : (({ w₁ with balancer := b } : World σ).addAll
              [.attempted c₁.service i r]).journal.toList <+: w'.journal.toList := by
            refine reaction.extends.trans ?_
            rcases t with ⟨c', w₂⟩ | ⟨o', w₂⟩
            · exact turns_extends run
            · cases run
              exact List.prefix_refl _
          have more : w₁.journal.attempts.length + 1 ≤ w'.journal.attempts.length :=
            Nat.le_trans (Nat.le_of_eq World.length_attempts_attempted.symm)
              (made.filterMap Journal.attemptOf?).length_le
          rw [none, target.journal_attempts] at more
          exact absurd more (Nat.not_succ_le_self _)

/-! ### The whole call -/

/-- How a call under a raised budget compares to the call under the smaller one.  Where that budget
was not spent it is the same call, and did not come to an outcome worth a retry.  Where it was, the
call under the smaller one gave up with its last attempt, though the reply was worth a retry, and
the other goes on from there. -/
structure Prolongs (s : Setup σ) (d : Policy.Configured) (service : String) (raw : Request)
    (o : Outcome) (w : World σ) (o' : Outcome) (w' : World σ) : Prop where
  unspent : ¬ d.Spent service w.journal → o' = o ∧ w' = w ∧
    ((Policy.ofConfigured d).admits raw.method = true → s.Settles d raw o)
  spent : d.Spent service w.journal → w.journal.attempts.length = d.budget ∧
    (∃ distinct reply last, (Policy.ofConfigured d).verdict reply = .retryable last ∧
      o = flatSpent d service distinct reply) ∧
    s.Furthers service raw w.journal o' w'.journal

/-- From a common context on, the turns under both budgets compare as whole calls do. -/
theorem turns_raised (raised : d.Raised d') (silent : ¬ s.token.Fires)
    (level : Level d service k selected c w)
    (run : s.turns (.ofConfigured d) raw limit c w = some (o, w₁))
    (run' : s.turns (.ofConfigured d') raw limit c w = some (o', w₂)) :
    s.Prolongs d service raw o w₁ o' w₂ := by
  induction limit generalizing k selected c w with
  | zero => cases run
  | succ limit ih =>
      rw [turns] at run run'
      have parallel : s.Parallel d service raw (s.turn (.ofConfigured d) raw c w)
          (s.turn (.ofConfigured d') raw c w) := turn_raised raised silent level
      generalize s.turn (.ofConfigured d) raw c w = t, s.turn (.ofConfigured d') raw c w = t' at *
      cases parallel with
      | onward level => exact ih level run run'
      | ended unspent settles =>
          cases run
          cases run'
          exact ⟨fun _ => ⟨rfl, rfl, fun _ => settles⟩, fun spent => absurd spent unspent⟩
      -- From here on there is only the call under the raised budget to follow.
      | @parted o w c' w' distinct reply last spent verdict outcome unbound service_eq counted next
          attempts choices =>
          cases run
          refine ⟨fun unspent => absurd spent unspent,
            fun _ => ⟨counted, ⟨_, _, _, verdict, outcome⟩, ?_⟩⟩
          have further := turns_further silent unbound (by rw [next, attempts, counted]) run'
          rw [service_eq] at further
          refine ⟨attempts ▸ further.attempts, fun none => ?_⟩
          rw [← attempts, ← choices]
          exact further.stuck (none.trans attempts.symm)

/-- A bypassed call does not spend a budget. -/
theorem bypass_unspent (unspent : ¬ d.Spent service w.journal) :
    ¬ d.Spent service (s.bypass p service raw w).2.journal := by
  rintro ⟨id, text, h⟩
  rw [bypass_events, List.mem_append] at h
  rcases h with h | h
  · exact unspent ⟨id, text, h⟩
  · simp at h

/-- **Raising the budget for further instances only prolongs calls**, as long as the token does not
fire.  A call that does not spend the smaller budget is the same call under both: in its outcome, in
the balancer it leaves, and in every entry.  One that does is prolonged. -/
theorem executeRetrying_raised (raised : d.Raised d') (silent : ¬ s.token.Fires)
    (small : d'.budget < UInt64.size) : ∃ o w o' w',
      s.executeRetrying Client.maxTurns (.ofConfigured d) service raw (.start b words) =
        some (o, w) ∧
      s.executeRetrying Client.maxTurns (.ofConfigured d') service raw (.start b words) =
        some (o', w') ∧
      s.Prolongs d service raw o w o' w' := by
  have live : s.cancelled (.start b words) = false := live_of_silent silent
  have admits : (Policy.ofConfigured d').admits raw.method =
      (Policy.ofConfigured d).admits raw.method := by
    rw [raised.policy_eq]
    rfl
  cases admitted : (Policy.ofConfigured d).admits raw.method with
  | true =>
      rw [admitted] at admits
      have lower : d.budget ≤ d'.budget := by
        have more : d.config.nextInstance.toNat < d'.config.nextInstance.toNat :=
          UInt64.lt_iff_toNat_lt.mp raised.more
        rw [Policy.Configured.budget, Policy.Configured.budget, raised.same_eq]
        exact Nat.mul_le_mul_left _ (Nat.succ_le_succ (Nat.le_of_lt more))
      have small₀ : d.budget < UInt64.size := Nat.lt_of_le_of_lt lower small
      obtain ⟨w, run, -⟩ : ∃ w, s.executeRetrying Client.maxTurns (.ofConfigured d) service raw
          (.start b words) = some ((s.flat d service raw b).outcome, w) ∧ _ :=
        executeRetrying_takes_flat _ silent admitted (.inl (Nat.le_of_lt small₀))
      obtain ⟨w', run', -⟩ : ∃ w', s.executeRetrying Client.maxTurns (.ofConfigured d') service raw
          (.start b words) = some ((s.flat d' service raw b).outcome, w') ∧ _ :=
        executeRetrying_takes_flat _ silent admits (.inl (Nat.le_of_lt small))
      refine ⟨_, w, _, w', run, run', ?_⟩
      rw [executeRetrying_of_admits live admitted] at run
      rw [executeRetrying_of_admits live admits] at run'
      have level : Level d service 1 [] (.fresh service)
          ((World.start b words).ask [.admits raw.method true]) :=
        ⟨ready_fresh, rfl, rfl, by rintro ⟨id, text, h⟩; cases h⟩
      exact turns_raised raised silent level run run'
  | false =>
      rw [admitted] at admits
      refine ⟨_, _, _, _, executeRetrying_of_refuses live admitted, ?_,
        fun _ => ⟨rfl, rfl, fun h => ?_⟩, fun spent => absurd spent ?_⟩
      · rw [executeRetrying_of_refuses live admits, raised.policy_eq]
        rfl
      · cases admitted.symm.trans h
      · refine bypass_unspent ?_
        rintro ⟨id, text, h⟩
        cases h

/-- Without a further instance the call ends with its only attempt; with one the next succeeds. -/
theorem executeRetrying_raised_failover :
    let d : Policy.Configured :=
      ⟨{ RetryConfig.default with nextInstance := 0 }, none, none, rfl, rfl⟩
    let d' : Policy.Configured := ⟨.default, none, none, rfl, rfl⟩
    let w₀ : World Script := .start (.sample [.error ⟨.reset, "closed"⟩]) (.constant 0)
    ∃ o w o' w',
      (Setup.sample .never).executeRetrying Client.maxTurns (.ofConfigured d) "users" .sample w₀ =
        some (o, w) ∧
      (Setup.sample .never).executeRetrying Client.maxTurns (.ofConfigured d') "users" .sample w₀ =
        some (o', w') ∧
      w.journal.attempts.map (·.2.1.id) = ["a"] ∧ w'.journal.attempts.map (·.2.1.id) = ["a", "b"] ∧
      (Setup.sample .never).Prolongs d "users" .sample o w o' w' := by
  intro d d' w₀
  have raised : d.Raised d' := ⟨rfl, rfl, by decide⟩
  obtain ⟨o, w, o', w', run, run', prolongs⟩ : ∃ o w o' w',
      (Setup.sample .never).executeRetrying Client.maxTurns (.ofConfigured d) "users" .sample w₀ =
        some (o, w) ∧
      (Setup.sample .never).executeRetrying Client.maxTurns (.ofConfigured d') "users" .sample w₀ =
        some (o', w') ∧
      (Setup.sample .never).Prolongs d "users" .sample o w o' w' :=
    executeRetrying_raised raised Trigger.not_fires_never (by decide)
  have made : ((Setup.sample .never).executeRetrying Client.maxTurns (.ofConfigured d) "users"
      .sample w₀).map (·.2.journal.attempts.map (·.2.1.id)) = some ["a"] := by decide +kernel
  have made' : ((Setup.sample .never).executeRetrying Client.maxTurns (.ofConfigured d') "users"
      .sample w₀).map (·.2.journal.attempts.map (·.2.1.id)) = some ["a", "b"] := by decide +kernel
  rw [run] at made
  rw [run'] at made'
  exact ⟨o, w, o', w', run, run', Option.some.inj made, Option.some.inj made', prolongs⟩

end Setup

end Failover
