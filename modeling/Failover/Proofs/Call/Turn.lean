import Failover.Proofs.Call.Reaction

/-!
# Calls — what a turn can do

A turn finds an instance, binds the request to it, sends it and reacts to the reply.  `TurnCase`
says so once, with the condition under which the turn stops at each of these points and with the
world it leaves.

* `turn_case`: every turn is one of these cases.
-/

namespace Failover

/-! ### Binding -/

/-- Whether a request can be bound to an instance does not hang on the attempt. -/
theorem Pipeline.bind_isOk_iff {pl : Pipeline} {raw : Request} {i : Instance} {m n : Nat} :
    (∃ r, pl.bind raw i m = .ok r) ↔ ∃ r, pl.bind raw i n = .ok r := by
  unfold Pipeline.bind
  cases raw.uri.readdress i with
  | error f => simp
  | ok uri => simp

/-- A request that cannot be bound fails with an address that cannot be used. -/
theorem Pipeline.kind_of_bind_error {pl : Pipeline} {raw : Request} {i : Instance} {n : Nat}
    {f : Failure} (h : pl.bind raw i n = .error f) : f.kind = .invalidAddress := by
  rw [Pipeline.bind, Uri.readdress] at h
  cases hp : Authority.parse i.authority with
  | error cause =>
      rw [hp] at h
      cases h
      rfl
  | ok a =>
      rw [hp] at h
      cases h

/-- The world after a turn. -/
def Turn.world {σ : Type} : Turn σ → World σ
  | .again _ w => w
  | .over _ w => w

namespace Setup

variable {σ : Type}

/-- The instance of the next attempt, with the context and the world in which it is bound: the one
that is bound already, or one that the balancer offers. -/
inductive Target (s : Setup σ) (c : Context) (w : World σ) :
    Instance → Context → World σ → Prop where
  | kept {i : Instance} (bound : c.bound = some i) : Target s c w i c w
  | chosen {i : Instance} {b : σ} (unbound : c.bound = none) (live : s.cancelled w = false)
      (choice : s.balancer.choose c.service w.balancer = (some i, b)) :
      Target s c w i (c.bind i)
        (({ w with balancer := b } : World σ).addAll (s.selectedEntries c i))

/-- The cases of a turn. -/
inductive TurnCase (s : Setup σ) (p : Policy) (raw : Request) (c : Context) (w : World σ) :
    Turn σ → Prop where
  /-- The token had fired when an instance was needed. -/
  | fired (unbound : c.bound = none) (fired : s.cancelled w = true) :
      TurnCase s p raw c w (.over (cancelledOutcome c) w)
  /-- There was no instance to offer. -/
  | empty {b : σ} (unbound : c.bound = none) (live : s.cancelled w = false)
      (choice : s.balancer.choose c.service w.balancer = (none, b)) :
      TurnCase s p raw c w (.over (.error (.noInstanceAvailable c.service))
        (({ w with balancer := b } : World σ).addAll
          [.chose c.service none, .logged (noInstanceLine c)]))
  /-- The request could not be bound to the instance. -/
  | unaddressable {i : Instance} {c₁ : Context} {w₁ : World σ} {f : Failure}
      (target : s.Target c w i c₁ w₁)
      (bind : s.pipeline.bind raw i (c₁.attempts + 1) = .error f) :
      TurnCase s p raw c w (.over (.error (.connectivity c₁.service f))
        (w₁.addAll [.logged (bindFailureLine i (c₁.attempts + 1) f)]))
  | attempted {i : Instance} {c₁ : Context} {w₁ : World σ} {r : Request}
      {reply : Except Failure Response} {b : σ} {t : Turn σ} (target : s.Target c w i c₁ w₁)
      (bind : s.pipeline.bind raw i (c₁.attempts + 1) = .ok r)
      (answer : s.balancer.executeOn c₁.service i r w₁.balancer = (reply, b))
      (reaction : s.Reaction p c₁.recordAttempt
        (({ w₁ with balancer := b } : World σ).addAll [.attempted c₁.service i r]) i reply t)
      (weighed : s.weigh p c₁.recordAttempt
        (({ w₁ with balancer := b } : World σ).addAll [.attempted c₁.service i r]) i reply = t) :
      TurnCase s p raw c w t

variable {s : Setup σ} {p : Policy} {raw : Request} {c c₁ : Context} {w w₁ : World σ}
  {i : Instance}

theorem Target.service_eq (t : s.Target c w i c₁ w₁) : c₁.service = c.service := by
  cases t <;> rfl

theorem Target.bound_eq (t : s.Target c w i c₁ w₁) : c₁.bound = some i := by
  cases t with
  | kept bound => exact bound
  | chosen unbound live choice => rfl

theorem Target.attempts_eq (t : s.Target c w i c₁ w₁) : c₁.attempts = c.attempts := by
  cases t <;> rfl

/-- A selection makes no attempt. -/
theorem Target.journal_attempts (t : s.Target c w i c₁ w₁) :
    w₁.journal.attempts = w.journal.attempts := by
  cases t with
  | kept bound => rfl
  | chosen unbound live choice =>
      rw [World.attempts_addAll, selectedEntries_attempts, List.append_nil]

/-- The target of a turn is what the selection comes to. -/
theorem Target.select (t : s.Target c w i c₁ w₁) : s.select c w = .bound i c₁ w₁ := by
  cases t with
  | kept bound => exact select_of_bound bound
  | chosen unbound live choice => exact select_of_some unbound live choice

/-- A turn that has a target makes its attempt there. -/
theorem Target.turn_eq (t : s.Target c w i c₁ w₁) : s.turn p raw c w = s.attempt p raw i c₁ w₁ := by
  simp only [turn, t.select]

/-- A request that cannot be bound ends the call without being sent. -/
theorem attempt_of_error {f : Failure}
    (h : s.pipeline.bind raw i (c.attempts + 1) = .error f) :
    s.attempt p raw i c w = .over (.error (.connectivity c.service f))
      (w.addAll [.logged (bindFailureLine i (c.attempts + 1) f)]) := by
  simp only [attempt, Context.recordAttempt, h, World.log_eq]

/-- A bound request is sent, and its reply is weighed. -/
theorem attempt_of_ok {r : Request} {reply : Except Failure Response} {b : σ}
    (h : s.pipeline.bind raw i (c.attempts + 1) = .ok r)
    (ha : s.balancer.executeOn c.service i r w.balancer = (reply, b)) :
    s.attempt p raw i c w = s.weigh p c.recordAttempt
      (({ w with balancer := b } : World σ).addAll [.attempted c.service i r]) i reply := by
  have hb : (w.add (.attempted c.service i r)).balancer = w.balancer := rfl
  simp only [attempt, Context.recordAttempt, h, executeOn, hb, ha]
  rfl

/-- An attempt on the instance that was found is a case of the turn. -/
theorem attempt_case (target : s.Target c w i c₁ w₁) :
    s.TurnCase p raw c w (s.attempt p raw i c₁ w₁) := by
  cases hb : s.pipeline.bind raw i (c₁.attempts + 1) with
  | error f =>
      rw [attempt_of_error hb]
      exact .unaddressable target hb
  | ok r =>
      rcases ha : s.balancer.executeOn c₁.service i r w₁.balancer with ⟨reply, b⟩
      rw [attempt_of_ok hb ha]
      exact .attempted target hb ha weigh_reaction rfl

/-- **Every turn is one of the cases.** -/
theorem turn_case : s.TurnCase p raw c w (s.turn p raw c w) := by
  rw [turn]
  cases hc : c.bound with
  | some i =>
      rw [select_of_bound hc]
      exact attempt_case (.kept hc)
  | none =>
      cases hf : s.cancelled w with
      | true =>
          rw [select_of_fired hc hf]
          exact .fired hc hf
      | false =>
          rcases hb : s.balancer.choose c.service w.balancer with ⟨_ | i, b⟩
          · rw [select_of_none hc hf hb]
            exact .empty hc hf hb
          · rw [select_of_some hc hf hb]
            exact attempt_case (.chosen hc hf hb)

/-! ### What is entered stays -/

/-- From the reply on, nothing is entered but what leaves the balancer alone. -/
theorem Reaction.tells {reply : Except Failure Response} {t : Turn σ}
    (h : s.Reaction p c w i reply t) : ∃ words es events, Tells es events ∧
      t.world = ({ w with words := words } : World σ).addAll es := by
  cases h with
  | usable verdict tells => exact ⟨w.words, _, _, tells, rfl⟩
  | cancelled verdict tells => exact ⟨w.words, _, _, tells, rfl⟩
  | fatal verdict tells => exact ⟨w.words, _, _, tells, rfl⟩
  | single verdict move one tells => exact ⟨w.words, _, _, tells, rfl⟩
  | spent verdict move more tells => exact ⟨w.words, _, _, tells, rfl⟩
  | interrupted verdict move fired undelayed tells => exact ⟨w.words, _, _, tells, rfl⟩
  | cut verdict move fires scheduling =>
      obtain ⟨delay, tells⟩ := scheduling.tells
      exact ⟨_, _, _, tells, rfl⟩
  | again verdict move scheduling =>
      obtain ⟨delay, tells⟩ := scheduling.tells
      exact ⟨_, _, _, tells, rfl⟩

/-- No attempt follows the reply within the turn. -/
theorem Reaction.journal_attempts {reply : Except Failure Response} {t : Turn σ}
    (h : s.Reaction p c w i reply t) : t.world.journal.attempts = w.journal.attempts := by
  obtain ⟨words, es, events, tells, ht⟩ := h.tells
  rw [ht, tells.journal_attempts]

/-- A reaction only adds entries. -/
theorem Reaction.extends {reply : Except Failure Response} {t : Turn σ}
    (h : s.Reaction p c w i reply t) : w.journal.toList <+: t.world.journal.toList := by
  obtain ⟨words, es, events, -, ht⟩ := h.tells
  rw [ht]
  exact ⟨_, World.toList_addAll.symm⟩

/-- So does a selection. -/
theorem Target.extends (t : s.Target c w i c₁ w₁) :
    w.journal.toList <+: w₁.journal.toList := by
  cases t with
  | kept bound => exact List.prefix_refl _
  | chosen unbound live choice => exact ⟨_, World.toList_addAll.symm⟩

/-- So does a whole turn. -/
theorem turn_extends : w.journal.toList <+: (s.turn p raw c w).world.journal.toList := by
  have turn : s.TurnCase p raw c w (s.turn p raw c w) := turn_case
  generalize s.turn p raw c w = t at *
  cases turn with
  | fired unbound fired => exact List.prefix_refl _
  | empty unbound live choice => exact ⟨_, World.toList_addAll.symm⟩
  | unaddressable target bind => exact target.extends.trans ⟨_, World.toList_addAll.symm⟩
  | attempted target bind answer reaction =>
      have attempt := (List.prefix_append _ _).trans (World.toList_addAll ▸ reaction.extends)
      exact target.extends.trans attempt

/-- A run only adds to the journal. -/
theorem turns_extends {limit : Nat} {o : Outcome} {w' : World σ}
    (run : s.turns p raw limit c w = some (o, w')) :
    w.journal.toList <+: w'.journal.toList := by
  induction limit generalizing c w with
  | zero => cases run
  | succ limit ih =>
      rw [turns] at run
      have step : w.journal.toList <+: (s.turn p raw c w).world.journal.toList := turn_extends
      generalize s.turn p raw c w = t at *
      rcases t with ⟨c', w₁⟩ | ⟨o', w₁⟩
      · exact step.trans (ih run)
      · cases run
        exact step

end Setup

end Failover
