import Failover.Call.Retry

/-!
# Policies — where the budgets of a configuration lead

A configured policy is asked for two counters only: the attempts on the bound instance and the
selections.  Both are tied to the attempts altogether, since every instance but the last has been
used up: `Within` states the tie, and every move of the policy keeps it.

* `Configured.budget`: the attempts that a call can make.
* `Within.first`, `Within.next`, `Within.same`: the tie holds for every attempt.
* `move_ne_giveUp_iff`: the call goes on as long as its budget lasts.
-/

namespace Failover

/-- An attempt under way fits the budgets: `s` attempts on one instance, and `n` further
instances. -/
structure Context.Within (s n : Nat) (c : Context) : Prop where
  one_le_selections : 1 ≤ c.selections
  selections_le : c.selections ≤ n + 1
  one_le_same : 1 ≤ c.sameAttempts
  same_le : c.sameAttempts ≤ s
  /-- All instances but the bound one have been used up. -/
  attempts_eq : c.attempts + s = c.selections * s + c.sameAttempts

namespace Context.Within

variable {s n : Nat} {c : Context} {i : Instance}

/-- The first attempt of a call fits. -/
theorem first {service : String} (hs : 1 ≤ s) :
    ((Context.fresh service).bind i).recordAttempt.Within s n := by
  refine ⟨?_, ?_, ?_, ?_, ?_⟩ <;> simp [Context.fresh, Context.bind, Context.recordAttempt]
  · exact hs
  · omega

/-- So does another attempt on the bound instance, while there is one. -/
theorem same (h : c.Within s n) (hs : c.sameAttempts < s) : c.recordAttempt.Within s n where
  one_le_selections := h.one_le_selections
  selections_le := h.selections_le
  one_le_same := Nat.succ_le_succ (Nat.zero_le _)
  same_le := hs
  attempts_eq := by
    have := h.attempts_eq
    simp only [Context.recordAttempt]
    omega

/-- So does the first attempt on a further instance, once the bound one is used up. -/
theorem next (h : c.Within s n) (hs : ¬ c.sameAttempts < s) (hn : c.selections ≤ n) :
    (c.release.bind i).recordAttempt.Within s n where
  one_le_selections := Nat.succ_le_succ (Nat.zero_le _)
  selections_le := Nat.succ_le_succ hn
  one_le_same := Nat.le_refl 1
  same_le := Nat.le_trans h.one_le_same h.same_le
  attempts_eq := by
    have hm : (c.selections + 1) * s = c.selections * s + s := Nat.succ_mul _ _
    have := h.attempts_eq
    have := h.same_le
    simp only [Context.recordAttempt, Context.bind, Context.release]
    omega

/-- The attempts never exceed the budget. -/
theorem attempts_le (h : c.Within s n) : c.attempts ≤ s * (n + 1) := by
  have hm : c.selections * s ≤ s * (n + 1) := by
    rw [Nat.mul_comm s]
    exact Nat.mul_le_mul_right s h.selections_le
  have := h.attempts_eq
  have := h.same_le
  omega

/-- The attempts are used up exactly when both counters are. -/
theorem attempts_lt_iff (h : c.Within s n) :
    c.attempts < s * (n + 1) ↔ c.sameAttempts < s ∨ c.selections ≤ n := by
  have heq := h.attempts_eq
  rw [Nat.mul_comm s]
  constructor
  · intro hk
    by_cases hn : c.selections ≤ n
    · exact .inr hn
    -- On the last instance the tie is an equation for the attempts on it.
    · have hsel : c.selections = n + 1 := Nat.le_antisymm h.selections_le (Nat.lt_of_not_le hn)
      rw [hsel] at heq
      exact .inl (by omega)
  · rintro (hs | hn)
    · have hm := Nat.mul_le_mul_right s h.selections_le
      omega
    · have hm : (c.selections + 1) * s ≤ (n + 1) * s :=
        Nat.mul_le_mul_right s (Nat.succ_le_succ hn)
      have hm' : (c.selections + 1) * s = c.selections * s + s := Nat.succ_mul _ _
      -- A whole instance is left, and the bound one is at most used up.
      have := h.one_le_same
      have := h.same_le
      omega

end Context.Within

namespace Policy

/-- The attempts that a call can make under a configuration. -/
def Configured.budget (c : Configured) : Nat :=
  c.config.sameInstance.toNat * (c.config.nextInstance.toNat + 1)

/-- A valid configuration allows an attempt on every instance. -/
theorem Configured.one_le_same (c : Configured) : 1 ≤ c.config.sameInstance.toNat := by
  have valid := c.valid
  unfold RetryConfig.validate at valid
  split at valid
  · cases valid
  · rename_i h
    rw [Nat.one_le_iff_ne_zero]
    exact fun h0 => h (UInt64.toNat_inj.mp h0)

/-- So a call can make one. -/
theorem Configured.one_le_budget (c : Configured) : 1 ≤ c.budget :=
  Nat.mul_pos c.one_le_same (Nat.succ_pos _)

/-- A budget of 64 bits is the number that the configuration reports. -/
theorem Configured.maxTotalAttempts_eq (c : Configured) (h : c.budget < UInt64.size) :
    c.config.maxTotalAttempts = c.budget := by
  have hle : c.budget ≤ maxCount := Nat.le_sub_one_of_lt h
  have hn : c.config.nextInstance.toNat + 1 ≤ c.budget :=
    Nat.le_mul_of_pos_left _ c.one_le_same
  have hmin : Nat.min (c.config.nextInstance.toNat + 1) maxCount =
      c.config.nextInstance.toNat + 1 := Nat.min_eq_left (Nat.le_trans hn hle)
  rw [RetryConfig.maxTotalAttempts, hmin]
  exact Nat.min_eq_left hle

/-- An attempt under way fits the budgets of a configuration. -/
abbrev Configured.Fits (d : Configured) (c : Context) : Prop :=
  c.Within d.config.sameInstance.toNat d.config.nextInstance.toNat

variable {d : Configured} {c : Context}

/-- A call stays on the bound instance while there is an attempt left on it. -/
theorem move_eq_same_iff :
    (ofConfigured d).move c = .same ↔ c.sameAttempts < d.config.sameInstance.toNat := by
  simp only [move, ofConfigured, decide_eq_true_eq]
  split
  · simp [*]
  · split <;> simp [*]

/-- It moves on once there is none, while there is an instance left. -/
theorem move_eq_next_iff :
    (ofConfigured d).move c = .next ↔
      ¬ c.sameAttempts < d.config.sameInstance.toNat ∧
        c.selections ≤ d.config.nextInstance.toNat := by
  simp only [move, ofConfigured, decide_eq_true_eq]
  split
  · simp [*]
  · split <;> simp [*]

/-- A call goes on as long as its budget lasts. -/
theorem move_ne_giveUp_iff (h : d.Fits c) :
    (ofConfigured d).move c ≠ .giveUp ↔ c.attempts < d.budget := by
  rw [Configured.budget, h.attempts_lt_iff]
  simp only [move, ofConfigured, decide_eq_true_eq]
  split
  · simp [*]
  · split <;> simp [*]

end Policy

end Failover
