import Failover.Proofs.Call.Account
import Failover.Proofs.Call.Calm
import Failover.Proofs.Call.Plain

/-!
# Calls — that end without a retry

A call may be one that could be repeated, and end without having been: its first attempt is usable
or fails for good, or there is no second attempt to make.  Then the turns of a retrying client and
the combined call of a plain one, which are written apart, come to the same; but a cancellation that
the transport reports is a cancelled call for the one and a failed call for the other.

A call that goes on after its first attempt asks the balancer for something (`turn_asks`): an
instance, or to send.  So a call that asked for one instance and made one attempt at most has ended
with its first turn.

* `turn_single`: a first turn that ends the call is the combined call.
* `turns_single`: so is a run that asks the balancer twice at most.
* `executeRetrying_unrepeated`: such calls, and all calls with a budget of one attempt, against
  those of a plain client.
-/

namespace Failover

/-- The combined call reaches the transport, and that fails. -/
def Balancer.FailsOnce {σ : Type} (B : Balancer σ) (pipeline : Pipeline) (service : String)
    (raw : Request) (b : σ) (f : Failure) : Prop :=
  ∃ i b₁ r b₂, B.choose service b = (some i, b₁) ∧ pipeline.bind raw i 1 = .ok r ∧
    B.executeOn service i r b₁ = (.error f, b₂)

/-- A reply counts as cancelled exactly if it is a failure of that kind. -/
theorem Policy.verdict_eq_cancelled_iff {p : Policy} {reply : Except Failure Response} :
    p.verdict reply = .cancelled ↔ ∃ f, reply = .error f ∧ f.kind = .cancelled := by
  constructor
  · intro h
    cases reply with
    | ok r =>
        dsimp only [verdict] at h
        split at h <;> cases h
    | error f =>
        dsimp only [verdict] at h
        split at h
        · rename_i hf
          exact ⟨f, rfl, of_decide_eq_true hf⟩
        · split at h <;> cases h
  · rintro ⟨f, rfl, hf⟩
    exact if_pos (decide_eq_true hf)

theorem Policy.eq_error_of_fatal {p : Policy} {reply : Except Failure Response} {f : Failure}
    (h : p.verdict reply = .fatal f) : reply = .error f := by
  cases reply with
  | ok r =>
      dsimp only [verdict] at h
      split at h <;> cases h
  | error f' =>
      dsimp only [verdict] at h
      split at h
      · cases h
      · split at h
        · cases h
        · rw [Verdict.fatal.inj h]

namespace Setup

variable {σ : Type} {s : Setup σ} {p : Policy} {service : String} {raw : Request} {b b₁ b₂ : σ}
  {c : Context} {w w' : World σ} {i : Instance} {r : Request} {f : Failure} {o : Outcome}
  {reply : Except Failure Response} {limit : Nat} {j j' : Journal}

/-! ### Going on -/

/-- How often the balancer was asked: for an instance, or to send. -/
def askings (j : Journal) : Nat := j.choices.length + j.attempts.length

theorem askings_mono (h : j.toList <+: j'.toList) : askings j ≤ askings j' :=
  Nat.add_le_add (Journal.Begins.of_extends h).choices.length_le
    (Journal.Begins.of_extends h).attempts.length_le

theorem askings_addAll {es : List Entry} :
    askings (w.addAll es).journal = askings w.journal + askings (.ofList es) := by
  unfold askings
  rw [World.choices_addAll, World.attempts_addAll, List.length_append, List.length_append]
  omega

/-- A flat course asks as often as it makes choices and attempts. -/
theorem Flat.Agrees.askings {f : Flat σ} (h : f.Agrees w w') :
    askings w'.journal = askings w.journal + (f.choices.length + f.attempts.length) := by
  unfold Setup.askings
  rw [h.choices, h.attempts, List.length_append, List.length_append]
  omega

/-- While the token does not fire and the kept instance can be addressed, a turn asks the balancer
for something. -/
theorem turn_asks (silent : ¬ s.token.Fires)
    (bindable : ∀ i, c.bound = some i → ∃ r, s.pipeline.bind raw i (c.attempts + 1) = .ok r) :
    askings w.journal < askings (s.turn p raw c w).world.journal := by
  have turn : s.TurnCase p raw c w (s.turn p raw c w) := turn_case
  generalize s.turn p raw c w = t at *
  cases turn with
  | fired unbound fired => exact absurd (.inl ⟨_, fired⟩) silent
  | @empty b' unbound live choice =>
      change _ < askings (World.addAll _ _).journal
      rw [askings_addAll]
      exact Nat.lt_succ_self _
  | @unaddressable i c₁ w₁ f target bind =>
      cases target with
      | kept bound =>
          obtain ⟨r, hr⟩ := bindable i bound
          cases hr.symm.trans bind
      | @chosen b' unbound live choice =>
          change _ < askings (World.addAll _ _).journal
          rw [askings_addAll, askings_addAll]
          have chosen : askings (.ofList (s.selectedEntries c i)) = 1 := by
            rw [askings, selectedEntries_choices, selectedEntries_attempts]
            rfl
          have same : askings ({ w with balancer := b' } : World σ).journal =
              askings w.journal := rfl
          omega
  | @attempted i c₁ w₁ r reply b' t target bind answer reaction =>
      have before := askings_mono target.extends
      have after := askings_mono reaction.extends
      rw [askings_addAll] at after
      have attempt : askings (.ofList [.attempted c₁.service i r]) = 1 := rfl
      have same : askings ({ w₁ with balancer := b' } : World σ).journal = askings w₁.journal := rfl
      omega

/-- So does a run. -/
theorem turns_asks (silent : ¬ s.token.Fires)
    (bindable : ∀ i, c.bound = some i → ∃ r, s.pipeline.bind raw i (c.attempts + 1) = .ok r)
    (run : s.turns p raw limit c w = some (o, w')) : askings w.journal < askings w'.journal := by
  cases limit with
  | zero => cases run
  | succ limit =>
      rw [turns] at run
      have asks : askings w.journal < askings (s.turn p raw c w).world.journal :=
        turn_asks silent bindable
      generalize s.turn p raw c w = t at *
      rcases t with ⟨c', w₁⟩ | ⟨o', w₁⟩
      · exact Nat.lt_of_lt_of_le asks (askings_mono (turns_extends run))
      · cases run
        exact asks

/-! ### The only turn -/

/-- The outcome of a call that is not repeated: that of the combined call, unless the transport has
reported a cancellation. -/
structure Unrepeated (s : Setup σ) (service : String) (raw : Request) (b : σ) (o : Outcome) :
    Prop where
  same : (∀ f, s.balancer.FailsOnce s.pipeline service raw b f → f.kind ≠ .cancelled) →
    o = (s.balancer.once s.pipeline service raw b).outcome
  cancelled : ∀ f, s.balancer.FailsOnce s.pipeline service raw b f → f.kind = .cancelled →
    o = .error (.cancelled service 1) ∧
      (s.balancer.once s.pipeline service raw b).outcome = .error (.connectivity service f)

/-- A call that does not reach the transport has the outcome of the combined call. -/
theorem Unrepeated.of_not_sent (h : o = (s.balancer.once s.pipeline service raw b).outcome)
    (unsent : ∀ f, ¬ s.balancer.FailsOnce s.pipeline service raw b f) :
    s.Unrepeated service raw b o :=
  ⟨fun _ => h, fun f hf => absurd hf (unsent f)⟩

section

variable (default : s.balancer.combined = none)
  (choice : s.balancer.choose service b = (some i, b₁)) (bind : s.pipeline.bind raw i 1 = .ok r)
  (answer : s.balancer.executeOn service i r b₁ = (reply, b₂))
include choice bind answer

/-- The transport fails as it replies to the attempt. -/
theorem failsOnce_iff : s.balancer.FailsOnce s.pipeline service raw b f ↔ reply = .error f := by
  constructor
  · rintro ⟨i', b₁', r', b₂', choice', bind', answer'⟩
    cases choice.symm.trans choice'
    cases bind.symm.trans bind'
    cases answer.symm.trans answer'
    rfl
  · rintro rfl
    exact ⟨i, b₁, r, b₂, choice, bind, answer⟩

include default

/-- A reply that is passed on is the outcome of the combined call. -/
theorem Unrepeated.of_reply (h : o = (LastOutcome.ofReply reply).asOutcome service)
    (other : ∀ f, reply = .error f → f.kind ≠ .cancelled) : s.Unrepeated service raw b o where
  same _ := by rw [h, Balancer.once_of_answer default choice bind answer]
  cancelled f hf hc := absurd hc (other f ((failsOnce_iff choice bind answer).mp hf))

/-- A cancellation that the transport reports is one of the call. -/
theorem Unrepeated.of_cancelled (hr : reply = .error f) (hf : f.kind = .cancelled)
    (h : o = .error (.cancelled service 1)) : s.Unrepeated service raw b o where
  same other := absurd hf (other f ((failsOnce_iff choice bind answer).mpr hr))
  cancelled f' hf' _ := by
    have hr' : reply = .error f' := (failsOnce_iff choice bind answer).mp hf'
    rw [Balancer.once_of_answer default choice bind answer, hr']
    exact ⟨h, rfl⟩

end

/-- The reply to the first attempt is passed on if the call ends with it, unless it is a
cancellation. -/
theorem Reaction.passed_on {w₀ w₁ : World σ} (silent : ¬ s.token.Fires) (first : c.attempts = 1)
    (h : s.Reaction p c w₀ i reply (.over o w₁)) :
    o = (LastOutcome.ofReply reply).asOutcome c.service ∧
        (∀ f, reply = .error f → f.kind ≠ .cancelled) ∨
      ∃ f, reply = .error f ∧ f.kind = .cancelled ∧ o = .error (.cancelled c.service 1) := by
  have not_cancelled (hv : p.verdict reply ≠ .cancelled) :
      ∀ f, reply = .error f → f.kind ≠ .cancelled := fun f hr hf =>
    hv (Policy.verdict_eq_cancelled_iff.mpr ⟨f, hr, hf⟩)
  cases h with
  | usable verdict tells =>
      obtain ⟨rfl, -⟩ := Policy.verdict_eq_usable_iff.mp verdict
      exact .inl ⟨rfl, fun f hf => nomatch hf⟩
  | cancelled verdict tells =>
      obtain ⟨f, rfl, hf⟩ := Policy.verdict_eq_cancelled_iff.mp verdict
      exact .inr ⟨f, rfl, hf, by rw [cancelledOutcome, first]⟩
  | @fatal f es verdict tells =>
      refine .inl ⟨?_, not_cancelled (by simp [verdict])⟩
      obtain rfl := Policy.eq_error_of_fatal verdict
      rfl
  | single verdict move one tells =>
      obtain rfl := eq_ofReply_of_retryable verdict
      exact .inl ⟨rfl, not_cancelled (by simp [verdict])⟩
  | spent verdict move more tells => exact absurd first more
  | interrupted verdict move fired undelayed tells => exact absurd (.inl ⟨_, fired⟩) silent
  | cut verdict move fires scheduling => exact absurd fires silent

/-- What a turn enters after the reply that ends the call leaves the balancer alone. -/
theorem Reaction.over_tells {w₀ w₁ : World σ} (silent : ¬ s.token.Fires)
    (h : s.Reaction p c w₀ i reply (.over o w₁)) :
    ∃ es events, Tells es events ∧ w₁ = w₀.addAll es := by
  cases h with
  | usable verdict tells => exact ⟨_, _, tells, rfl⟩
  | cancelled verdict tells => exact ⟨_, _, tells, rfl⟩
  | fatal verdict tells => exact ⟨_, _, tells, rfl⟩
  | single verdict move one tells => exact ⟨_, _, tells, rfl⟩
  | spent verdict move more tells => exact ⟨_, _, tells, rfl⟩
  | interrupted verdict move fired undelayed tells => exact ⟨_, _, tells, rfl⟩
  | cut verdict move fires scheduling => exact absurd fires silent

/-- A selection is what the combined call does first. -/
theorem selected_agrees :
    Flat.Agrees ⟨o, b, [some i], []⟩ w
      (({ w with balancer := b } : World σ).addAll (s.selectedEntries c i)) where
  balancer := rfl
  choices := by rw [World.choices_addAll, selectedEntries_choices]
  attempts := by rw [World.attempts_addAll, selectedEntries_attempts]

/-- A first turn that ends the call is the combined call. -/
theorem turn_single (silent : ¬ s.token.Fires) (default : s.balancer.combined = none)
    (unbound : c.bound = none) (first : c.attempts = 0) (h : s.turn p raw c w = .over o w') :
    (s.balancer.once s.pipeline c.service raw w.balancer).Agrees w w' ∧
      s.Unrepeated c.service raw w.balancer o := by
  have turn : s.TurnCase p raw c w (.over o w') := h ▸ turn_case
  generalize ht : Turn.over o w' = t at turn
  cases turn with
  | fired unbound fired => exact absurd (.inl ⟨_, fired⟩) silent
  | @empty b' unbound live choice =>
      cases ht
      have once : s.balancer.once s.pipeline c.service raw w.balancer =
          ⟨.error (.noInstanceAvailable c.service), b', [none], []⟩ :=
        Balancer.once_of_none default choice
      refine ⟨?_, .of_not_sent (congrArg Flat.outcome once).symm ?_⟩
      · rw [once]
        exact ⟨rfl, World.choices_addAll, World.attempts_addAll⟩
      · rintro f ⟨i, b₁, r, b₂, choice', -, -⟩
        cases choice.symm.trans choice'
  | @unaddressable i c₁ w₁ f target bind =>
      cases ht
      cases target with
      | kept bound => cases unbound.symm.trans bound
      | @chosen b' unbound live choice =>
          rw [show (c.bind i).attempts + 1 = 1 from congrArg (· + 1) first] at bind
          have once := Balancer.once_of_unaddressable default choice bind
          refine ⟨?_, .of_not_sent (congrArg Flat.outcome once).symm ?_⟩
          · rw [once]
            exact selected_agrees.addAll Tells.nil.log
          · rintro f' ⟨i', b₁, r, b₂, choice', bind', -⟩
            cases choice.symm.trans choice'
            cases bind.symm.trans bind'
  | @attempted i c₁ w₁ r reply b' t target bind answer reaction =>
      cases target with
      | kept bound => cases unbound.symm.trans bound
      | @chosen b₁ unbound live choice =>
          subst ht
          have one : (c.bind i).recordAttempt.attempts = 1 := congrArg (· + 1) first
          rw [show (c.bind i).attempts + 1 = 1 from one] at bind
          obtain ⟨es, events, tells, rfl⟩ := reaction.over_tells silent
          refine ⟨?_, ?_⟩
          · rw [Balancer.once_of_answer default choice bind answer]
            exact selected_agrees.attempted.addAll tells
          · rcases reaction.passed_on silent one with ⟨passed, other⟩ | ⟨f, hr, hf, cancelled⟩
            · exact .of_reply default choice bind answer passed other
            · exact .of_cancelled default choice bind answer hr hf cancelled

/-- A first turn that does not end the call asks the balancer twice, and its instance can be
addressed. -/
theorem turn_again (unbound : c.bound = none) {c' : Context} (h : s.turn p raw c w = .again c' w') :
    askings w.journal + 2 ≤ askings w'.journal ∧
      ∀ i, c'.bound = some i → ∃ r, s.pipeline.bind raw i (c'.attempts + 1) = .ok r := by
  have turn : s.TurnCase p raw c w (.again c' w') := h ▸ turn_case
  cases turn with
  | @attempted i c₁ w₁ r reply b' t target bind answer reaction =>
      cases target with
      | kept bound => cases unbound.symm.trans bound
      | @chosen b₁ unbound live choice =>
          refine ⟨?_, fun j hj => ?_⟩
          · have agrees : Flat.Agrees
                ⟨(LastOutcome.ofReply reply).asOutcome c.service, b', [some i], [(c.service, i, r)]⟩
                w _ := (selected_agrees (s := s) (c := c) (b := b₁)).attempted
            exact Nat.le_trans (Nat.le_of_eq agrees.askings.symm) (askings_mono reaction.extends)
          · cases reaction with
            | again verdict move scheduling =>
                obtain rfl : i = j := Option.some.inj (Context.bound_of_after hj)
                exact Pipeline.bind_isOk_iff.mp ⟨r, bind⟩

/-- **A run that asks the balancer twice at most is the combined call.** -/
theorem turns_single (silent : ¬ s.token.Fires) (default : s.balancer.combined = none)
    (unbound : c.bound = none) (first : c.attempts = 0)
    (run : s.turns p raw limit c w = some (o, w'))
    (few : askings w'.journal ≤ askings w.journal + 2) :
    (s.balancer.once s.pipeline c.service raw w.balancer).Agrees w w' ∧
      s.Unrepeated c.service raw w.balancer o := by
  cases limit with
  | zero => cases run
  | succ limit =>
      rw [turns] at run
      rcases h : s.turn p raw c w with ⟨c', w₁⟩ | ⟨o', w₁⟩
      -- Another turn asks once more.
      · rw [h] at run
        obtain ⟨twice, bindable⟩ := turn_again unbound h
        have more : askings w₁.journal < askings w'.journal := turns_asks silent bindable run
        omega
      · rw [h] at run
        cases run
        exact turn_single silent default unbound first h

/-! ### Against a plain client -/

/-- A call against one of a plain client, both from the state `b` of the balancer: they agree, but
for a cancellation that the transport reports. -/
structure AsPlain (s : Setup σ) (service : String) (raw : Request) (b : σ)
    (x x₀ : Outcome × World σ) : Prop where
  balancer : x.2.balancer = x₀.2.balancer
  choices : x.2.journal.choices = x₀.2.journal.choices
  attempts : x.2.journal.attempts = x₀.2.journal.attempts
  outcome : (∀ f, s.balancer.FailsOnce s.pipeline service raw b f → f.kind ≠ .cancelled) →
    x.1 = x₀.1
  cancelled : ∀ f, s.balancer.FailsOnce s.pipeline service raw b f → f.kind = .cancelled →
    x.1 = .error (.cancelled service 1) ∧ x₀.1 = .error (.connectivity service f)

variable {s₀ : Setup σ} {words words₀ : Words}

/-- What agrees with the combined call agrees with the call of a plain client. -/
theorem AsPlain.of_agrees (shares : s.Shares s₀)
    (agrees : (s.balancer.once s.pipeline service raw b).Agrees (.start b words) w)
    (unrepeated : s.Unrepeated service raw b o) :
    s.AsPlain service raw b (o, w) (s₀.executePlain (.start b words₀) service raw) := by
  have plain : (s.balancer.once s.pipeline service raw b).Gives (.start b words₀)
      (s₀.executePlain (.start b words₀) service raw) := shares.executePlain_gives
  refine ⟨agrees.balancer.trans plain.agrees.balancer.symm,
    agrees.choices.trans plain.agrees.choices.symm,
    agrees.attempts.trans plain.agrees.attempts.symm, fun h => ?_, fun f hf hc => ?_⟩
  · rw [unrepeated.same h, plain.outcome]
  · rw [plain.outcome]
    exact unrepeated.cancelled f hf hc

/-- A call that asks for one instance and makes one attempt at most is as one of a plain client. -/
theorem asPlain_of_run (shares : s.Shares s₀) (default : s.balancer.combined = none)
    (silent : ¬ s.token.Fires) (admits : p.admits raw.method = true)
    (run : s.executeRetrying limit p service raw (.start b words) = some (o, w))
    (choices : w.journal.choices.length = 1) (attempts : w.journal.attempts.length ≤ 1) :
    s.AsPlain service raw b (o, w) (s₀.executePlain (.start b words₀) service raw) := by
  rw [executeRetrying_of_admits (live_of_silent silent) admits] at run
  have few : askings w.journal ≤ 2 := Nat.add_le_add (Nat.le_of_eq choices) attempts
  obtain ⟨agrees, unrepeated⟩ := turns_single silent default rfl rfl run
    (Nat.le_trans few (Nat.le_add_left 2 _))
  have agrees : (s.balancer.once s.pipeline service raw b).Agrees
      ((World.start b words).addAll [.asked (.admits raw.method true)]) w := agrees
  exact .of_agrees shares (agrees.of_addAll rfl rfl) unrepeated

variable {d : Policy.Configured}

/-- One attempt is left: an instance is asked for once, and is sent to once at most. -/
theorem flatFrom_last :
    (s.flatFrom d service raw 0 1 [] b).choices.length = 1 ∧
      (s.flatFrom d service raw 0 1 [] b).attempts.length ≤ 1 := by
  have hz : (1 - 1) % d.config.sameInstance.toNat = 0 := Nat.zero_mod _
  rw [flatFrom.eq_def, flatChoice, if_pos hz]
  dsimp only
  repeat' split
  all_goals simp

/-- With a budget of one attempt every call ends, and asks for no more. -/
theorem exists_run_of_budget_one (silent : ¬ s.token.Fires)
    (admits : (Policy.ofConfigured d).admits raw.method = true) (budget : d.budget = 1)
    (hl : 1 ≤ limit) :
    ∃ o w, s.executeRetrying limit (.ofConfigured d) service raw (.start b words) = some (o, w) ∧
      w.journal.choices.length = 1 ∧ w.journal.attempts.length ≤ 1 := by
  obtain ⟨w, run, agrees⟩ : ∃ w, s.turns (.ofConfigured d) raw limit (.fresh service)
        ((World.start b words).ask [.admits raw.method true]) =
          some ((s.flatFrom d service raw 0 1 [] b).outcome, w) ∧
        (s.flatFrom d service raw 0 1 [] b).Agrees
          ((World.start b words).ask [.admits raw.method true]) w :=
    turns_flat (w := (World.start b words).ask [.admits raw.method true]) silent ready_fresh rfl
      budget.symm (.inl hl)
  rw [← executeRetrying_of_admits (live_of_silent silent) admits] at run
  obtain ⟨choices, attempts⟩ := flatFrom_last (s := s) (d := d) (b := b)
  refine ⟨_, w, run, ?_, ?_⟩
  · rw [agrees.choices]
    exact choices
  · rw [agrees.attempts]
    exact attempts

/-- **Where a call is not repeated, a retrying and a plain client agree.**  They reach the same
outcome and leave the same balancer, whatever the policy would say of it, and under a budget of one
attempt every call is such; but the one reports a cancelled transport as a cancelled call, and the
other as one that failed. -/
theorem executeRetrying_unrepeated (shares : s.Shares s₀) (default : s.balancer.combined = none)
    (silent : ¬ s.token.Fires) :
    (∀ p limit service raw b words words₀ o w, p.admits raw.method = true →
      s.executeRetrying limit p service raw (.start b words) = some (o, w) →
      w.journal.choices.length = 1 → w.journal.attempts.length ≤ 1 →
      s.AsPlain service raw b (o, w) (s₀.executePlain (.start b words₀) service raw)) ∧
    ∀ d : Policy.Configured, d.config.sameInstance = 1 → d.config.nextInstance = 0 →
      ∀ limit service raw b words words₀, (Policy.ofConfigured d).admits raw.method = true →
        1 ≤ limit → ∃ o w,
          s.executeRetrying limit (.ofConfigured d) service raw (.start b words) = some (o, w) ∧
          w.journal.choices.length = 1 ∧ w.journal.attempts.length ≤ 1 ∧
          s.AsPlain service raw b (o, w) (s₀.executePlain (.start b words₀) service raw) := by
  refine ⟨fun p limit service raw b words words₀ o w => asPlain_of_run shares default silent, ?_⟩
  intro d same next limit service raw b words words₀ admits hl
  have budget : d.budget = 1 := by
    rw [Policy.Configured.budget, same, next]
    rfl
  obtain ⟨o, w, run, choices, attempts⟩ := exists_run_of_budget_one silent admits budget hl
  exact ⟨o, w, run, choices, attempts,
    asPlain_of_run shares default silent admits run choices attempts⟩

/-- One attempt on one instance: a connection that breaks is reported by both alike, and a transport
that is cancelled is not. -/
theorem executeRetrying_unrepeated_failing :
    ∃ d : Policy.Configured, d.budget = 1 ∧
      let s := Setup.sample .never
      let broken := Script.sample [.error ⟨.reset, "closed"⟩]
      let cancelled := Script.sample [.error ⟨.cancelled, "stopped"⟩]
      (∃ o w, s.executeRetrying 1 (.ofConfigured d) "users" .sample (.start broken (.constant 0)) =
          some (o, w) ∧ w.journal.choices.length = 1 ∧
          o = (s.executePlain (.start broken (.constant 0)) "users" .sample).1) ∧
      ∃ w, s.executeRetrying 1 (.ofConfigured d) "users" .sample (.start cancelled (.constant 0)) =
          some (.error (.cancelled "users" 1), w) ∧
        (s.executePlain (.start cancelled (.constant 0)) "users" .sample).1 =
          .error (.connectivity "users" ⟨.cancelled, "stopped"⟩) := by
  let d : Policy.Configured :=
    ⟨{ RetryConfig.default with nextInstance := 0 }, none, none, rfl, rfl⟩
  have admits : (Policy.ofConfigured d).admits Request.sample.method = true := by decide
  obtain ⟨-, unrepeated⟩ := executeRetrying_unrepeated (s := Setup.sample .never) ⟨rfl, rfl⟩ rfl
    Trigger.not_fires_never
  have bound : ((Setup.sample .never).pipeline.bind .sample (.sample "a") 1).isOk = true := by
    decide +kernel
  obtain ⟨r, bind⟩ : ∃ r, (Setup.sample .never).pipeline.bind .sample (.sample "a") 1 = .ok r := by
    revert bound
    generalize Pipeline.bind _ _ _ _ = x
    cases x with
    | ok r => exact fun _ => ⟨r, rfl⟩
    | error f => exact fun h => nomatch h
  have fails (f f' : Failure) : (Setup.sample .never).balancer.FailsOnce
      (Setup.sample .never).pipeline "users" .sample (.sample [.error f]) f' ↔
        (.error f : Except Failure Response) = .error f' := by
    have choice : (Setup.sample .never).balancer.choose "users" (.sample [.error f]) =
        (some (.sample "a"), { Script.sample [.error f] with cursor := 1, selections := 1 }) := rfl
    exact failsOnce_iff choice bind rfl
  refine ⟨d, rfl, ?_, ?_⟩
  · obtain ⟨o, w, run, choices, -, same⟩ := unrepeated d rfl rfl 1 "users" .sample
      (.sample [.error ⟨.reset, "closed"⟩]) (.constant 0) (.constant 0) admits (Nat.le_refl 1)
    refine ⟨o, w, run, choices, same.outcome fun f hf => ?_⟩
    cases (fails _ _).mp hf
    exact nofun
  · obtain ⟨o, w, run, choices, -, same⟩ := unrepeated d rfl rfl 1 "users" .sample
      (.sample [.error ⟨.cancelled, "stopped"⟩]) (.constant 0) (.constant 0) admits (Nat.le_refl 1)
    obtain ⟨rfl, plain⟩ := same.cancelled ⟨.cancelled, "stopped"⟩ ((fails _ _).mpr rfl) rfl
    exact ⟨w, run, plain⟩

end Setup

end Failover
