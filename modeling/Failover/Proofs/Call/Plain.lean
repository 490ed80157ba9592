import Failover.Proofs.Call.Flat
import Failover.Proofs.Call.Once

/-!
# Calls — made plainly

A combined call looks at the balancer and at the pipeline, and at nothing else: not at the sink, the
sleeper, the token or the generator.  `Balancer.once` says what it comes to as a function of the
balancer's state, with what it asks of the balancer on the way.

* `executeOnce_gives`: the combined call is that function.
* `executePlain_gives`, `bypass_gives`: so are the call of a plain client and the call that a
  policy does not let retry, whatever else they enter into the journal.
* `Balancer.once_attempts`: it makes at most one attempt, bound as the first.
-/

namespace Failover

open Setup (Flat)

/-! ### The combined call -/

/-- The combined call: the balancer's own, or else a choice, a binding as first attempt and an
attempt. -/
def Balancer.once {σ : Type} (B : Balancer σ) (pipeline : Pipeline) (service : String)
    (raw : Request) (b : σ) : Flat σ :=
  match B.combined with
  | some execute => ⟨(execute service pipeline raw b).1, (execute service pipeline raw b).2, [], []⟩
  | none =>
    match B.choose service b with
    | (none, b) => ⟨.error (.noInstanceAvailable service), b, [none], []⟩
    | (some i, b) =>
      match pipeline.bind raw i 1 with
      | .error f => ⟨.error (.connectivity service f), b, [some i], []⟩
      | .ok r =>
        match B.executeOn service i r b with
        | (.ok response, b) => ⟨.ok response, b, [some i], [(service, i, r)]⟩
        | (.error f, b) => ⟨.error (.connectivity service f), b, [some i], [(service, i, r)]⟩

namespace Balancer

variable {σ : Type} {B : Balancer σ} {pipeline : Pipeline} {service : String} {raw : Request}
  {b b₁ b₂ : σ} {i : Instance} {r : Request} {f : Failure} {reply : Except Failure Response}

/-- A balancer with a combined call of its own answers by it. -/
theorem once_of_combined {execute : String → Pipeline → Request → σ → Outcome × σ}
    (h : B.combined = some execute) :
    B.once pipeline service raw b =
      ⟨(execute service pipeline raw b).1, (execute service pipeline raw b).2, [], []⟩ := by
  simp only [once, h]

section

variable (default : B.combined = none)
include default

/-- Without an instance nothing is sent. -/
theorem once_of_none (choice : B.choose service b = (none, b₁)) :
    B.once pipeline service raw b = ⟨.error (.noInstanceAvailable service), b₁, [none], []⟩ := by
  simp only [once, default, choice]

variable (choice : B.choose service b = (some i, b₁))
include choice

/-- Nor is anything to an instance whose address cannot be used. -/
theorem once_of_unaddressable (bind : pipeline.bind raw i 1 = .error f) :
    B.once pipeline service raw b = ⟨.error (.connectivity service f), b₁, [some i], []⟩ := by
  simp only [once, default, choice, bind]

variable (bind : pipeline.bind raw i 1 = .ok r)
include bind

/-- The reply to the one attempt is the outcome. -/
theorem once_of_answer (answer : B.executeOn service i r b₁ = (reply, b₂)) :
    B.once pipeline service raw b =
      ⟨(LastOutcome.ofReply reply).asOutcome service, b₂, [some i], [(service, i, r)]⟩ := by
  cases reply <;> simp only [once, default, choice, bind, answer] <;> rfl

end

/-- At most one instance is asked for. -/
theorem once_choices_length : (B.once pipeline service raw b).choices.length ≤ 1 := by
  unfold once
  repeat' split
  all_goals simp

/-- At most one attempt is made, and it sends what is bound as first attempt. -/
theorem once_attempts :
    (B.once pipeline service raw b).attempts = [] ∨
      ∃ i r, pipeline.bind raw i 1 = .ok r ∧
        (B.once pipeline service raw b).attempts = [(service, i, r)] := by
  cases hc : B.combined with
  | some execute =>
      rw [once_of_combined hc]
      exact .inl rfl
  | none =>
      rcases choice : B.choose service b with ⟨_ | i, b₁⟩
      · rw [once_of_none hc choice]
        exact .inl rfl
      · cases bind : pipeline.bind raw i 1 with
        | error f =>
            rw [once_of_unaddressable hc choice bind]
            exact .inl rfl
        | ok r =>
            rcases answer : B.executeOn service i r b₁ with ⟨reply, b₂⟩
            rw [once_of_answer hc choice bind answer]
            exact .inr ⟨i, r, bind, rfl⟩

end Balancer

namespace Setup

variable {σ : Type} {s : Setup σ} {p : Policy} {service : String} {raw : Request}
  {w w' : World σ} {f : Flat σ} {es : List Entry} {events : List Event}

/-! ### What it describes -/

/-- A call comes to what the course says, and did what the course says from a world on. -/
structure Flat.Gives (f : Flat σ) (w : World σ) (x : Outcome × World σ) : Prop where
  outcome : x.1 = f.outcome
  agrees : f.Agrees w x.2

/-- What is entered behind without a call of the balancer makes no difference. -/
theorem Flat.Agrees.addAll (h : f.Agrees w w') (tells : Tells es events) :
    f.Agrees w (w'.addAll es) where
  balancer := h.balancer
  choices := by rw [tells.journal_choices, h.choices]
  attempts := by rw [tells.journal_attempts, h.attempts]

/-- Nor does what is entered in front without a choice and an attempt. -/
theorem Flat.Agrees.of_addAll (h : f.Agrees (w.addAll es) w')
    (hc : (Journal.ofList es).choices = []) (ha : (Journal.ofList es).attempts = []) :
    f.Agrees w w' where
  balancer := h.balancer
  choices := by rw [h.choices, World.choices_addAll, hc, List.append_nil]
  attempts := by rw [h.attempts, World.attempts_addAll, ha, List.append_nil]

/-- An attempt on the instance that was chosen comes next. -/
theorem Flat.Agrees.attempted {o : Outcome} {i : Instance} {r : Request} {b b' : σ}
    (h : Flat.Agrees ⟨o, b, [some i], []⟩ w w') :
    Flat.Agrees ⟨o, b', [some i], [(service, i, r)]⟩ w
      (({ w' with balancer := b' } : World σ).addAll [.attempted service i r]) where
  balancer := rfl
  choices := by
    rw [World.choices_addAll, ← h.choices]
    exact List.append_nil _
  attempts := by
    rw [World.attempts_addAll]
    exact congrArg (· ++ [(service, i, r)]) (h.attempts.trans (List.append_nil _))

/-- Without a way of its own the balancer is asked for an instance and sent to. -/
theorem chooseAndSend_gives (default : s.balancer.combined = none) :
    (s.balancer.once s.pipeline service raw w.balancer).Gives w
      (s.chooseAndSend w service raw) := by
  unfold chooseAndSend
  rcases choice : s.balancer.choose service w.balancer with ⟨_ | i, b₁⟩
  · rw [choose_eq choice, Balancer.once_of_none default choice]
    exact ⟨rfl, rfl, World.choices_addAll, World.attempts_addAll⟩
  · rw [choose_eq choice]
    dsimp only
    have chosen (o : Outcome) : Flat.Agrees ⟨o, b₁, [some i], []⟩ w
        (({ w with balancer := b₁ } : World σ).addAll [.chose service (some i)]) :=
      ⟨rfl, World.choices_addAll, World.attempts_addAll⟩
    cases bind : s.pipeline.bind raw i 1 with
    | error f =>
        rw [Balancer.once_of_unaddressable default choice bind]
        exact ⟨rfl, (chosen _).addAll Tells.nil.log⟩
    | ok r =>
        dsimp only
        generalize hw : ({ w with balancer := b₁ } : World σ).addAll [.chose service (some i)] = w₁
          at chosen
        rcases answer : s.balancer.executeOn service i r b₁ with ⟨reply, b₂⟩
        have answer₁ : s.balancer.executeOn service i r w₁.balancer = (reply, b₂) := by
          rw [← hw]
          exact answer
        rw [executeOn_eq answer₁, Balancer.once_of_answer default choice bind answer]
        cases reply with
        | ok response => exact ⟨rfl, (chosen _).attempted⟩
        | error f => exact ⟨rfl, (chosen _).attempted⟩

/-- The combined call gives what its description says. -/
theorem executeOnce_gives :
    (s.balancer.once s.pipeline service raw w.balancer).Gives w (s.executeOnce w service raw) := by
  unfold executeOnce
  rw [World.add_eq]
  cases hc : s.balancer.combined with
  | none =>
      have gives : (s.balancer.once s.pipeline service raw w.balancer).Gives
          (w.addAll [.combined service])
          (s.chooseAndSend (w.addAll [.combined service]) service raw) :=
        chooseAndSend_gives (w := w.addAll [.combined service]) hc
      exact ⟨gives.outcome, gives.agrees.of_addAll rfl rfl⟩
  | some execute =>
      rw [Balancer.once_of_combined hc]
      exact ⟨rfl, rfl, World.choices_addAll, World.attempts_addAll⟩

/-- **The call of a plain client is the combined call.** -/
theorem executePlain_gives :
    (s.balancer.once s.pipeline service raw w.balancer).Gives w (s.executePlain w service raw) := by
  have gives : (s.balancer.once s.pipeline service raw w.balancer).Gives w
      (s.executeOnce w service raw) := executeOnce_gives
  unfold executePlain
  rcases h : s.executeOnce w service raw with ⟨e | response, w₁⟩
  · rw [h] at gives
    exact gives
  · rw [h] at gives
    refine ⟨gives.outcome, ?_⟩
    dsimp only
    rw [emit_eq, World.log_addAll]
    exact gives.agrees.addAll Tells.emission.log

/-- Two setups use the same balancer and pipeline; sinks, sleepers and tokens may differ. -/
structure Shares (s s₀ : Setup σ) : Prop where
  balancer : s₀.balancer = s.balancer
  pipeline : s₀.pipeline = s.pipeline

/-- The call of a plain client does not depend on what else it runs with. -/
theorem Shares.executePlain_gives {s₀ : Setup σ} {b : σ} {words : Words} (h : s.Shares s₀) :
    (s.balancer.once s.pipeline service raw b).Gives (.start b words)
      (s₀.executePlain (.start b words) service raw) := by
  rw [← h.balancer, ← h.pipeline]
  exact Setup.executePlain_gives (w := .start b words)

/-- **So is a call that its policy does not let retry.** -/
theorem bypass_gives :
    (s.balancer.once s.pipeline service raw w.balancer).Gives w (s.bypass p service raw w) := by
  unfold bypass
  dsimp only
  rw [emit_eq, World.log_addAll, World.ask, World.addAll_addAll]
  generalize hes : List.map Entry.asked _ ++ _ :: _ = es
  have tells : Tells es [.bypassed service raw.method.name
      (if p.enabled then BypassReason.unsafeMethod else .retryDisabled)] := by
    rw [← hes]
    exact Tells.asked.append Tells.emission.log
  have gives : (s.balancer.once s.pipeline service raw w.balancer).Gives (w.addAll es)
      (s.executeOnce (w.addAll es) service raw) := executeOnce_gives (w := w.addAll es)
  exact ⟨gives.outcome, gives.agrees.of_addAll tells.choices tells.attempts⟩

end Setup

end Failover
