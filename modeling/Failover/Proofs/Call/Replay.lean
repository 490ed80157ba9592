import Failover.Proofs.Call.Turn

/-!
# Calls — reading the state off the journal

The counters of a call and the balancer's state are not entered into the journal, but both can be
read off it: a choice, an attempt and a scheduled retry say what they did to the counters, and the
balancer is a function of what it was asked.

* `Context.replay`, `Balancer.replay`: the counters and the balancer's state after some entries.
* `Stands`: the state between two turns is the one that the journal gives.
* `Target.context_eq`, `Target.balancer_eq`: a selection keeps to the journal.
-/

namespace Failover

/-! ### Counters -/

namespace Context

/-- The counters after an event: a retry on another instance lets the bound one go. -/
def hear (c : Context) : Event → Context
  | .retryScheduled _ false _ => c.release
  | _ => c

/-- The counters after an entry. -/
def follow (c : Context) : Entry → Context
  | .chose _ (some i) => c.bind i
  | .attempted .. => c.recordAttempt
  | .emitted e => c.hear e
  | _ => c

/-- The counters of a call after some entries. -/
def replay (service : String) (es : List Entry) : Context := es.foldl follow (.fresh service)

variable {service : String} {c : Context} {es as bs : List Entry}

@[simp] theorem replay_nil : replay service [] = .fresh service := rfl

/-- Entries are followed one after the other. -/
theorem replay_append : replay service (as ++ bs) = bs.foldl follow (replay service as) :=
  List.foldl_append

@[simp] theorem follow_service {e : Entry} : (c.follow e).service = c.service := by
  rcases e with ⟨_, _ | i⟩ | _ | _ | _ | ⟨_ | _ | ⟨_, _ | _, _⟩ | _ | _ | _⟩ | _ | _ | _ <;> rfl

theorem foldl_follow_service : (es.foldl follow c).service = c.service := by
  induction es generalizing c with
  | nil => rfl
  | cons e es ih => rw [List.foldl_cons, ih, follow_service]

@[simp] theorem replay_service : (replay service es).service = service := foldl_follow_service

theorem follow_attempts {e : Entry} :
    (c.follow e).attempts = c.attempts + ([e].filterMap Journal.attemptOf?).length := by
  rcases e with ⟨_, _ | i⟩ | _ | _ | _ | ⟨_ | _ | ⟨_, _ | _, _⟩ | _ | _ | _⟩ | _ | _ | _ <;> rfl

theorem foldl_follow_attempts :
    (es.foldl follow c).attempts =
      c.attempts + (es.filterMap Journal.attemptOf?).length := by
  induction es generalizing c with
  | nil => rfl
  | cons e es ih =>
      rw [List.foldl_cons, ih, follow_attempts, Nat.add_assoc, ← List.length_append,
        ← List.filterMap_append, List.singleton_append]

/-- The attempts that were counted are those that were made. -/
theorem replay_attempts :
    (replay service es).attempts = (Journal.ofList es).attempts.length := by
  rw [replay, foldl_follow_attempts, fresh, Nat.zero_add]
  rfl

/-- Between two calls of the balancer only the events count. -/
theorem foldl_follow_of_tells {events : List Event} (h : Tells es events) :
    es.foldl follow c = events.foldl hear c := by
  obtain ⟨quiet, rfl⟩ := h
  induction es generalizing c with
  | nil => rfl
  | cons e es ih =>
      have he := quiet e List.mem_cons_self
      have ih := fun c => ih (c := c) fun x hx => quiet x (List.mem_cons_of_mem e hx)
      rw [List.foldl_cons, ih]
      cases e <;> first | rfl | cases he

end Context

/-! ### The balancer -/

namespace Balancer

variable {σ : Type} {B : Balancer σ} {b : σ} {es as bs : List Entry}

/-- The balancer's state after an entry. -/
def follow (B : Balancer σ) (b : σ) : Entry → σ
  | .chose service _ => (B.choose service b).2
  | .attempted service i r => (B.executeOn service i r b).2
  | _ => b

/-- The balancer's state after some entries. -/
def replay (B : Balancer σ) (b : σ) (es : List Entry) : σ := es.foldl B.follow b

@[simp] theorem replay_nil : B.replay b [] = b := rfl

theorem replay_append : B.replay b (as ++ bs) = B.replay (B.replay b as) bs := List.foldl_append

/-- Between two of its calls the balancer stays as it is. -/
theorem replay_of_tells {events : List Event} (h : Tells es events) : B.replay b es = b := by
  have quiet := h.quiet
  clear h
  induction es with
  | nil => rfl
  | cons e es ih =>
      have he := quiet e List.mem_cons_self
      have ih := ih fun x hx => quiet x (List.mem_cons_of_mem e hx)
      rw [replay, List.foldl_cons] at *
      cases e <;> first | exact ih | cases he

end Balancer

namespace Setup

variable {σ : Type}

/-! ### Between two turns -/

/-- The counters, the balancer and the journal belong together, and the request can be bound to
the instance that is kept. -/
structure Stands (s : Setup σ) (service : String) (raw : Request) (b : σ) (c : Context)
    (w : World σ) : Prop where
  context : c = .replay service w.journal.toList
  balancer : w.balancer = s.balancer.replay b w.journal.toList
  bindable : ∀ i, c.bound = some i → ∃ r, s.pipeline.bind raw i (c.attempts + 1) = .ok r

variable {s : Setup σ} {p : Policy} {service : String} {raw : Request} {b : σ}
  {c c₁ c' : Context} {w w₁ w' : World σ} {i : Instance} {r : Request}

theorem Stands.service_eq (h : s.Stands service raw b c w) : c.service = service := by
  rw [h.context, Context.replay_service]

/-- The context of an attempt is read off the journal. -/
theorem Target.context_eq (h : s.Stands service raw b c w) (t : s.Target c w i c₁ w₁) :
    c₁ = .replay service w₁.journal.toList := by
  cases t with
  | kept bound => exact h.context
  | chosen unbound live choice =>
      rw [World.toList_addAll, Context.replay_append, ← h.context, selectedEntries,
        List.foldl_cons, Context.foldl_follow_of_tells tells_selected]
      rfl

/-- So is the state of the balancer. -/
theorem Target.balancer_eq (h : s.Stands service raw b c w) (t : s.Target c w i c₁ w₁) :
    w₁.balancer = s.balancer.replay b w₁.journal.toList := by
  cases t with
  | kept bound => exact h.balancer
  | chosen unbound live choice =>
      have hb : s.balancer.follow w.balancer (.chose c.service (some i)) = _ :=
        congrArg Prod.snd choice
      rw [World.toList_addAll, Balancer.replay_append, ← h.balancer, selectedEntries,
        Balancer.replay, List.foldl_cons, ← Balancer.replay,
        Balancer.replay_of_tells tells_selected, hb]
      rfl

end Setup

end Failover
