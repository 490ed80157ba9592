import Failover.Proofs.Call.Reaction

/-!
# Calls — what a call without retries enters

A call that its policy does not let retry says so and is made once.  `Once` lists what the combined
call of a balancer can enter.

* `executeOnce_once`: every combined call is one of these.
* `bypass_once`: so is every bypassed call, after it has said why.
-/

namespace Failover.Setup

variable {σ : Type}

/-- What a combined call enters, and its outcome. -/
inductive Once (s : Setup σ) (service : String) (raw : Request) : Outcome → List Entry → Prop where
  /-- The balancer has a way of its own. -/
  | own {o : Outcome} : Once s service raw o []
  | empty : Once s service raw (.error (.noInstanceAvailable service)) [.chose service none]
  | unaddressable {i : Instance} {f : Failure} (bind : s.pipeline.bind raw i 1 = .error f) :
      Once s service raw (.error (.connectivity service f))
        [.chose service (some i), .logged (bindFailureLine i 1 f)]
  | attempted {i : Instance} {r : Request} {o : Outcome} (bind : s.pipeline.bind raw i 1 = .ok r) :
      Once s service raw o [.chose service (some i), .attempted service i r]

variable {s : Setup σ} {p : Policy} {service : String} {raw : Request} {w : World σ}

/-- An attempt is the last thing that a combined call enters. -/
theorem Once.attempted_last {o : Outcome} {past rest : List Entry} {service' : String}
    {i : Instance} {r : Request}
    (h : s.Once service raw o (past ++ .attempted service' i r :: rest)) : rest = [] := by
  generalize ht : past ++ .attempted service' i r :: rest = tail at h
  cases h with
  | own => simp at ht
  | empty => rcases past with _ | ⟨_, past⟩ <;> simp at ht
  | unaddressable bind => rcases past with _ | ⟨_, _ | ⟨_, past⟩⟩ <;> simp at ht
  | attempted bind =>
      rcases past with _ | ⟨_, _ | ⟨_, past⟩⟩
      · simp at ht
      · obtain ⟨-, ht⟩ := List.cons.inj ht
        exact (List.cons.inj ht).2
      · simp at ht

/-- A choice is the first thing, and a request that cannot be bound to the instance the last. -/
theorem Once.chose_first {o : Outcome} {past rest : List Entry} {service' : String}
    {i : Instance} (h : s.Once service raw o (past ++ .chose service' (some i) :: rest)) :
    past = [] ∧ ∀ f, s.pipeline.bind raw i 1 = .error f →
      o = .error (.connectivity service f) ∧ ∀ e ∈ rest, e.isCall = false := by
  generalize ht : past ++ .chose service' (some i) :: rest = tail at h
  cases h with
  | own => simp at ht
  | empty => rcases past with _ | ⟨_, past⟩ <;> simp at ht
  | @unaddressable j f bind =>
      rcases past with _ | ⟨_, _ | ⟨_, past⟩⟩
      · obtain ⟨he, rfl⟩ := List.cons.inj ht
        cases he
        refine ⟨rfl, fun f' hf => ?_⟩
        cases bind.symm.trans hf
        exact ⟨rfl, fun e he => by rw [List.mem_singleton.mp he]; rfl⟩
      · simp at ht
      · simp at ht
  | @attempted j r o bind =>
      rcases past with _ | ⟨_, _ | ⟨_, past⟩⟩
      · obtain ⟨he, rfl⟩ := List.cons.inj ht
        cases he
        exact ⟨rfl, fun f' hf => nomatch bind.symm.trans hf⟩
      · simp at ht
      · simp at ht

theorem choose_eq {choice : Option Instance} {b : σ}
    (h : s.balancer.choose service w.balancer = (choice, b)) :
    s.choose w service =
      (choice, ({ w with balancer := b } : World σ).addAll [.chose service choice]) := by
  simp only [choose, h]
  rfl

theorem executeOn_eq {i : Instance} {r : Request} {reply : Except Failure Response} {b : σ}
    (h : s.balancer.executeOn service i r w.balancer = (reply, b)) :
    s.executeOn w service i r =
      (reply, ({ w with balancer := b } : World σ).addAll [.attempted service i r]) := by
  have hb : (w.add (.attempted service i r)).balancer = w.balancer := rfl
  simp only [executeOn, hb, h]
  rfl

/-- Choosing and sending is one attempt at most. -/
theorem chooseAndSend_once :
    ∃ tail, (s.chooseAndSend w service raw).2.journal.toList = w.journal.toList ++ tail ∧
      s.Once service raw (s.chooseAndSend w service raw).1 tail := by
  unfold chooseAndSend
  rcases hc : s.balancer.choose service w.balancer with ⟨_ | i, b⟩
  · rw [choose_eq hc]
    exact ⟨_, World.toList_addAll, .empty⟩
  · rw [choose_eq hc]
    dsimp only
    generalize hw : ({ w with balancer := b } : World σ).addAll [.chose service (some i)] = w₁
    have hw₁ : w₁.journal.toList = w.journal.toList ++ [.chose service (some i)] := by
      rw [← hw, World.toList_addAll]
    cases hb : s.pipeline.bind raw i 1 with
    | error f =>
        refine ⟨_, ?_, .unaddressable hb⟩
        dsimp only
        rw [World.log_eq, World.toList_addAll, hw₁, List.append_assoc]
        rfl
    | ok r =>
        dsimp only
        rcases ha : s.balancer.executeOn service i r w₁.balancer with ⟨reply, b'⟩
        rw [executeOn_eq ha]
        have hw₂ : (({ w₁ with balancer := b' } : World σ).addAll
            [.attempted service i r]).journal.toList = w.journal.toList ++
              [.chose service (some i), .attempted service i r] := by
          rw [World.toList_addAll, hw₁, List.append_assoc]
          rfl
        cases reply with
        | ok response => exact ⟨_, hw₂, .attempted hb⟩
        | error f => exact ⟨_, hw₂, .attempted hb⟩

/-- So is the combined call. -/
theorem executeOnce_once :
    ∃ tail, (s.executeOnce w service raw).2.journal.toList =
        w.journal.toList ++ .combined service :: tail ∧
      s.Once service raw (s.executeOnce w service raw).1 tail := by
  have hw : (w.add (.combined service)).journal.toList =
      w.journal.toList ++ [.combined service] := Journal.toList_add
  unfold executeOnce
  cases s.balancer.combined with
  | none =>
      obtain ⟨tail, htail, once⟩ := chooseAndSend_once (s := s) (w := w.add (.combined service))
      rw [hw, List.append_assoc, List.singleton_append] at htail
      exact ⟨tail, htail, once⟩
  | some execute => exact ⟨[], hw, .own⟩

/-- So is a call that is made once under a policy. -/
theorem bypass_once {o : Outcome} {w' : World σ} (h : s.bypass p service raw w = (o, w')) :
    ∃ pre tail, w'.journal.toList = w.journal.toList ++ (pre ++ .combined service :: tail) ∧
      (∀ e ∈ pre, e.isNote = true) ∧ s.Once service raw o tail := by
  unfold bypass at h
  dsimp only at h
  rw [emit_eq, World.log_addAll, World.ask, World.addAll_addAll] at h
  obtain ⟨tail, htail, once⟩ := executeOnce_once (s := s)
  rw [h, World.toList_addAll, List.append_assoc] at htail
  rw [h] at once
  refine ⟨_, tail, htail, ?_, once⟩
  simp [emission, Entry.isNote]

end Failover.Setup
