import Failover.Proofs.Call.Account
import Failover.Proofs.Call.Flat
import Mathlib.Data.Nat.Find

/-!
# Calls — failing over to a healthy instance

A scripted balancer that has used up its script serves its pool in turn, and every attempt on an
instance comes out the same: it fails with the failure set for the instance, or it succeeds.  A call
whose budget covers the pool makes all of its attempts on each failing instance that it is offered,
and then one on the first that is healthy.

* `Script.offer`, `Script.exists_offer`: the pool in turn, and that every instance comes up within
  one round.
* `Rotates.flatFrom`: the course of a call up to the first healthy instance.
* `executeRetrying_healthy`: the whole call.
-/

namespace Failover

/-! ### Serving the pool -/

namespace Script

variable {b b' : Script} {n : Nat} {i : Instance} {service : String} {r : Request}

/-- What the pool offers after `n` other offers. -/
def offer (b : Script) (n : Nat) : Instance :=
  b.pool.getD ((b.cursor + n) % b.pool.length) default

/-- How every attempt on an instance comes out, once no outcomes are queued. -/
def reply (b : Script) (i : Instance) : Except Failure Response :=
  match b.failing.get? i.id with
  | some f => .error f
  | none => .ok ⟨.ok, ""⟩

/-- The script is used up, and the pool has made `n` offers since. -/
structure Offered (b : Script) (n : Nat) (b' : Script) : Prop where
  pool : b'.pool = b.pool
  failing : b'.failing = b.failing
  choices : b'.choices = []
  outcomes : b'.outcomes = []
  cursor : b'.cursor = b.cursor + n

/-- The pool has an instance for every turn. -/
theorem getElem?_offer (filled : b.pool ≠ []) :
    b.pool[(b.cursor + n) % b.pool.length]? = some (b.offer n) := by
  have inside : (b.cursor + n) % b.pool.length < b.pool.length :=
    Nat.mod_lt _ (List.length_pos_iff.mpr filled)
  rw [offer, List.getD_eq_getElem?_getD, List.getElem?_eq_getElem inside, Option.getD_some]

theorem offer_mem (filled : b.pool ≠ []) : b.offer n ∈ b.pool :=
  List.mem_of_getElem? (getElem?_offer filled)

/-- Counting up from anywhere, one round meets every remainder. -/
theorem exists_add_mod_eq {k m : Nat} (start : Nat) (h : k < m) : ∃ n < m, (start + n) % m = k := by
  have some_round : 0 < m := Nat.lt_of_le_of_lt (Nat.zero_le k) h
  refine ⟨(k + (m - start % m)) % m, Nat.mod_lt _ some_round, ?_⟩
  have split := Nat.div_add_mod start m
  have below := Nat.mod_lt start some_round
  have whole : start + (k + (m - start % m)) = k + m * (start / m + 1) := by
    rw [Nat.mul_succ]
    omega
  rw [Nat.add_mod_mod, whole, Nat.add_mul_mod_self_left, Nat.mod_eq_of_lt h]

/-- Every instance of the pool is offered within one round, wherever that begins. -/
theorem exists_offer (mem : i ∈ b.pool) : ∃ n < b.pool.length, b.offer n = i := by
  obtain ⟨k, inside, rfl⟩ := List.mem_iff_getElem.mp mem
  obtain ⟨n, hn, turn⟩ := exists_add_mod_eq b.cursor inside
  refine ⟨n, hn, ?_⟩
  have offered := getElem?_offer (n := n) (List.ne_nil_of_mem mem)
  rw [turn, List.getElem?_eq_getElem inside] at offered
  exact (Option.some.inj offered).symm

/-- Asked for an instance, the balancer makes the next offer. -/
theorem Offered.choose (h : b.Offered n b') (filled : b.pool ≠ []) :
    ∃ b'', b'.choose = (some (b.offer n), b'') ∧ b.Offered (n + 1) b'' := by
  refine ⟨{ b' with selections := b'.selections + 1, cursor := b'.cursor + 1 }, ?_,
    h.pool, h.failing, h.choices, h.outcomes, congrArg (· + 1) h.cursor⟩
  have filled' : b'.pool.isEmpty = false := by
    rw [h.pool]
    exact List.isEmpty_eq_false_iff.mpr filled
  rw [Script.choose, h.choices, filled', ← getElem?_offer filled, ← h.pool, ← h.cursor]
  rfl

/-- An attempt does not change what is offered next. -/
theorem Offered.executeOn (h : b.Offered n b') :
    ∃ b'', b'.executeOn service i r = (b.reply i, b'') ∧ b.Offered n b'' := by
  refine ⟨{ b' with attempts := b'.attempts.push ⟨service, i.id, r⟩ }, ?_,
    h.pool, h.failing, h.choices, h.outcomes, h.cursor⟩
  unfold Script.executeOn Script.nextOutcome reply
  rw [← h.failing]
  dsimp only
  cases b'.failing.get? i.id with
  | some f => rfl
  | none =>
      rw [h.outcomes]
      rfl

end Script

/-! ### The course up to a healthy instance -/

/-- The address of an instance can be used. -/
def Instance.Addressable (i : Instance) : Prop := ∃ a, Authority.parse i.authority = .ok a

/-- A request can be bound to an instance with a usable address. -/
theorem Pipeline.bind_of_addressable {pl : Pipeline} {raw : Request} {i : Instance} {n : Nat}
    (h : i.Addressable) : ∃ r, pl.bind raw i n = .ok r := by
  obtain ⟨a, ha⟩ := h
  rw [Pipeline.bind, Uri.readdress, ha]
  exact ⟨_, rfl⟩

/-- How many instances have been selected before attempt `x`, counted from zero, with `m` attempts
on each. -/
def startedBefore (m x : Nat) : Nat := if x % m = 0 then x / m else x / m + 1

theorem startedBefore_zero {m : Nat} : startedBefore m 0 = 0 := by
  rw [startedBefore, if_pos (Nat.zero_mod m), Nat.zero_div]

/-- With its first attempt an instance counts as started on. -/
theorem startedBefore_succ {m x : Nat} : startedBefore m (x + 1) = x / m + 1 := by
  rw [startedBefore, Nat.succ_div]
  split
  · rename_i h
    rw [if_pos (Nat.dvd_of_mod_eq_zero h)]
  · rename_i h
    rw [if_neg fun hd => h (Nat.mod_eq_zero_of_dvd hd)]

namespace Script

variable {b : Script} {m t x : Nat}

/-- What is chosen from attempt `x` on, up to the offer `t`. -/
def choicesFrom (b : Script) (m t x : Nat) : List (Option Instance) :=
  (List.range' (startedBefore m x) (t + 1 - startedBefore m x)).map fun n => some (b.offer n)

/-- The instances of the attempts from attempt `x` on, up to the first one on the offer `t`. -/
def targetsFrom (b : Script) (m t x : Nat) : List Instance :=
  (List.range' x (m * t + 1 - x)).map fun y => b.offer (y / m)

theorem choicesFrom_step (h : x / m ≤ t) :
    b.choicesFrom m t x =
      (if x % m = 0 then [some (b.offer (x / m))] else []) ++ b.choicesFrom m t (x + 1) := by
  unfold choicesFrom
  rw [startedBefore_succ, startedBefore]
  split
  · have more : t + 1 - x / m = (t + 1 - (x / m + 1)) + 1 := by omega
    rw [more, List.range'_succ]
    rfl
  · rfl

theorem choicesFrom_end (hm : 0 < m) : b.choicesFrom m t (m * t + 1) = [] := by
  rw [choicesFrom, startedBefore_succ, Nat.mul_div_cancel_left t hm, Nat.sub_self]
  rfl

theorem targetsFrom_step (h : x ≤ m * t) :
    b.targetsFrom m t x = b.offer (x / m) :: b.targetsFrom m t (x + 1) := by
  unfold targetsFrom
  have more : m * t + 1 - x = (m * t + 1 - (x + 1)) + 1 := by omega
  rw [more, List.range'_succ]
  rfl

theorem targetsFrom_end : b.targetsFrom m t (m * t + 1) = [] := by
  rw [targetsFrom, Nat.sub_self]
  rfl

/-- All choices of a call: the offers up to the offer `t`. -/
theorem choicesFrom_zero :
    b.choicesFrom m t 0 = ((List.range t).map b.offer ++ [b.offer t]).map some := by
  rw [choicesFrom, startedBefore_zero, Nat.sub_zero, ← List.range_eq_range', List.range_succ]
  simp

/-- All attempts of a call: `m` on each offer before the offer `t`, and one on that. -/
theorem targetsFrom_zero (hm : 0 < m) :
    b.targetsFrom m t 0 =
      ((List.range t).map b.offer).flatMap (List.replicate m) ++ [b.offer t] := by
  have rounds : (List.range (m * t)).map (fun y => b.offer (y / m)) =
      ((List.range t).map b.offer).flatMap (List.replicate m) := by
    induction t with
    | zero => rfl
    | succ t ih =>
        have last : (List.range m).map (fun y => b.offer ((m * t + y) / m)) =
            List.replicate m (b.offer t) := by
          rw [List.eq_replicate_iff]
          refine ⟨by simp, List.forall_mem_map.mpr fun y hy => ?_⟩
          rw [Nat.mul_add_div hm, Nat.div_eq_of_lt (List.mem_range.mp hy), Nat.add_zero]
        rw [Nat.mul_succ, List.range_add, List.map_append, ih, List.range_succ, List.map_append,
          List.flatMap_append, List.map_map]
        exact congrArg _ (last.trans (List.append_nil _).symm)
  rw [targetsFrom, Nat.sub_zero, ← List.range_eq_range', List.range_succ, List.map_append, rounds]
  simp [Nat.mul_div_cancel_left t hm]

end Script

/-- A cancellation is never retried. -/
theorem Policy.Configured.kind_of_retriesFailure {d : Policy.Configured} {f : Failure}
    (h : d.retriesFailure f = true) : f.kind ≠ .cancelled := by
  intro hf
  rw [retriesFailure, if_pos hf] at h
  cases h

namespace Setup

variable {s : Setup Script} {d : Policy.Configured} {service : String} {raw : Request}
  {b b' : Script} {m t x left : Nat}

/-- The offer `t` of the pool is the first healthy one: those before it fail in a way that is
retried, each with `m` attempts that the budget allows. -/
structure Rotates (s : Setup Script) (d : Policy.Configured) (b : Script) (m t : Nat) : Prop where
  scripted : ∃ atomic, s.balancer = .scripted atomic
  filled : b.pool ≠ []
  addressable : ∀ i ∈ b.pool, i.Addressable
  failing : ∀ n < t, ∃ f, b.failing.get? (b.offer n).id = some f ∧ d.retriesFailure f = true
  healthy : b.failing.get? (b.offer t).id = none
  usable : (Policy.ofConfigured d).retriesStatus .ok = false
  same_eq : d.config.sameInstance.toNat = m
  lasts : m * t < d.budget

/-- Before an attempt the next offer is asked for if the attempts on the last are used up. -/
theorem Rotates.flatChoice (h : s.Rotates d b m t) (offered : b.Offered (startedBefore m x) b') :
    ∃ b'', s.flatChoice d service (x + 1) ((List.range (startedBefore m x)).map b.offer) b' =
        (if x % m = 0 then [some (b.offer (x / m))] else [],
          (List.range (x / m + 1)).map b.offer, b'') ∧
      b.Offered (x / m + 1) b'' := by
  obtain ⟨atomic, scripted⟩ := h.scripted
  unfold startedBefore at offered ⊢
  rw [Setup.flatChoice, h.same_eq, Nat.add_sub_cancel]
  split
  · rename_i hx
    rw [if_pos hx] at offered
    obtain ⟨b'', choice, offered⟩ := offered.choose h.filled
    have choice : s.balancer.choose service b' = (some (b.offer (x / m)), b'') := by
      rw [scripted]
      exact choice
    refine ⟨b'', ?_, offered⟩
    rw [choice, List.range_succ, List.map_append]
    rfl
  · rename_i hx
    rw [if_neg hx] at offered
    exact ⟨b', rfl, offered⟩

variable (service raw)

/-- What happens at attempt `x`: it is made on the offer that is due. -/
theorem Rotates.attempt (h : s.Rotates d b m t)
    (offered : b.Offered (startedBefore m x) b') :
    ∃ b₁ r b₂, s.flatChoice d service (x + 1) ((List.range (startedBefore m x)).map b.offer) b' =
        (if x % m = 0 then [some (b.offer (x / m))] else [],
          (List.range (x / m + 1)).map b.offer, b₁) ∧
      s.pipeline.bind raw (b.offer (x / m)) (x + 1) = .ok r ∧
      s.balancer.executeOn service (b.offer (x / m)) r b₁ = (b.reply (b.offer (x / m)), b₂) ∧
      b.Offered (startedBefore m (x + 1)) b₂ := by
  obtain ⟨b₁, choice, offered⟩ := h.flatChoice offered
  obtain ⟨r, bind⟩ : ∃ r, s.pipeline.bind raw (b.offer (x / m)) (x + 1) = .ok r :=
    Pipeline.bind_of_addressable (h.addressable _ (Script.offer_mem h.filled))
  obtain ⟨b₂, answer, offered⟩ := offered.executeOn
  refine ⟨b₁, r, b₂, choice, bind, ?_, startedBefore_succ ▸ offered⟩
  obtain ⟨atomic, scripted⟩ := h.scripted
  rw [scripted]
  exact answer

/-- The course of a call from attempt `x` on, counted from zero: `m` attempts on each offer up to
the first healthy one, which is attempted once. -/
theorem Rotates.flatFrom (h : s.Rotates d b m t) (due : x ≤ m * t) (hk : x + 1 + left = d.budget)
    (offered : b.Offered (startedBefore m x) b') :
    let f := s.flatFrom d service raw left (x + 1)
      ((List.range (startedBefore m x)).map b.offer) b'
    f.outcome = .ok ⟨.ok, ""⟩ ∧ f.choices = b.choicesFrom m t x ∧
      f.attempts.map (·.2.1) = b.targetsFrom m t x := by
  have hm : 0 < m := h.same_eq ▸ d.one_le_same
  have target (x : Nat) : ((List.range (x / m + 1)).map b.offer)[(x + 1 - 1) /
      d.config.sameInstance.toNat]? = some (b.offer (x / m)) := by
    rw [h.same_eq, Nat.add_sub_cancel]
    simp
  dsimp only
  -- The attempts that come before the healthy offer; there are `m * t` of them in all.
  induction hn : m * t - x generalizing x left b' with
  | zero =>
      obtain rfl : x = m * t := by omega
      obtain ⟨b₁, r, b₂, hc, bind, answer, -⟩ := h.attempt service raw offered
      have place : m * t / m = t := Nat.mul_div_cancel_left t hm
      have reply : b.reply (b.offer (m * t / m)) = .ok ⟨.ok, ""⟩ := by
        rw [place, Script.reply, h.healthy]
      have stop : flatStop d service (m * t + 1) (b.reply (b.offer (m * t / m))) =
          some (.ok ⟨.ok, ""⟩) := by
        rw [reply, flatStop, h.usable]
        rfl
      rw [flatFrom_of_stop hc (target _) bind answer stop]
      refine ⟨rfl, ?_, ?_⟩
      · rw [Script.choicesFrom_step (Nat.le_of_eq place), Script.choicesFrom_end hm,
          List.append_nil]
      · rw [Script.targetsFrom_step (Nat.le_refl _), Script.targetsFrom_end]
        rfl
  | succ n ih =>
      obtain ⟨b₁, r, b₂, hc, bind, answer, offered⟩ := h.attempt service raw offered
      have before : x / m < t := Nat.div_lt_of_lt_mul (by omega)
      obtain ⟨f, failing, retried⟩ := h.failing _ before
      have reply : b.reply (b.offer (x / m)) = .error f := by rw [Script.reply, failing]
      have go : flatStop d service (x + 1) (b.reply (b.offer (x / m))) = none := by
        rw [reply, flatStop_eq, Policy.verdict_eq_retryable_iff.mpr
          (.inr ⟨f, rfl, Policy.Configured.kind_of_retriesFailure retried, retried, rfl⟩)]
      have lasts := h.lasts
      obtain ⟨left, rfl⟩ := Nat.exists_eq_succ_of_ne_zero (show left ≠ 0 by omega)
      rw [flatFrom_succ hc (target _) bind answer go]
      have further : x + 1 ≤ m * t := by omega
      have hk : x + 1 + 1 + left = d.budget := by omega
      obtain ⟨outcome, choices, targets⟩ := ih further hk offered (by omega)
      rw [startedBefore_succ] at outcome choices targets
      refine ⟨outcome, ?_, ?_⟩
      · rw [Script.choicesFrom_step (Nat.le_of_lt before), ← choices]
        rfl
      · rw [Script.targetsFrom_step due, ← targets]
        rfl

variable {service raw}

/-- The first healthy offer comes within one round, so the budget lasts for it. -/
theorem exists_rotates {atomic : Bool} (scripted : s.balancer = .scripted atomic)
    (addressable : ∀ i ∈ b.pool, i.Addressable)
    (healthy : ∃ i ∈ b.pool, b.failing.get? i.id = none)
    (retried : ∀ id f, b.failing.get? id = some f → d.retriesFailure f = true)
    (enough : b.pool.length - 1 ≤ d.config.nextInstance.toNat)
    (usable : (Policy.ofConfigured d).retriesStatus .ok = false) :
    ∃ t ≤ b.pool.length - 1, s.Rotates d b d.config.sameInstance.toNat t := by
  -- A healthy instance is offered within the round, and the first healthy offer is no later.
  obtain ⟨i, mem, hi⟩ := healthy
  obtain ⟨n, hn, rfl⟩ := Script.exists_offer mem
  have exists_healthy : ∃ n, b.failing.get? (b.offer n).id = none := ⟨n, hi⟩
  have within : Nat.find exists_healthy ≤ b.pool.length - 1 :=
    Nat.le_trans (Nat.find_min' exists_healthy hi) (Nat.le_sub_one_of_lt hn)
  refine ⟨Nat.find exists_healthy, within, ⟨atomic, scripted⟩, List.ne_nil_of_mem mem, addressable,
    fun n hn => ?_, Nat.find_spec exists_healthy, usable, rfl, ?_⟩
  · obtain ⟨f, hf⟩ := Option.ne_none_iff_exists'.mp (Nat.find_min exists_healthy hn)
    exact ⟨f, hf, retried _ f hf⟩
  · exact Nat.mul_lt_mul_of_pos_left
      (Nat.lt_succ_of_le (Nat.le_trans within enough)) d.one_le_same

/-- **A call whose budget covers the pool reaches a healthy instance.**  The instances that it is
offered before all fail, and it makes all of its attempts on each of them; on the first healthy one
it makes a single attempt, which succeeds. -/
theorem executeRetrying_healthy {atomic : Bool} {words : Words}
    (scripted : s.balancer = .scripted atomic)
    (choices : b.choices = []) (outcomes : b.outcomes = [])
    (addressable : ∀ i ∈ b.pool, i.Addressable)
    (healthy : ∃ i ∈ b.pool, b.failing.get? i.id = none)
    (retried : ∀ id f, b.failing.get? id = some f → d.retriesFailure f = true)
    (enough : b.pool.length - 1 ≤ d.config.nextInstance.toNat)
    (usable : (Policy.ofConfigured d).retriesStatus .ok = false)
    (small : d.config.sameInstance.toNat * (b.pool.length - 1) + 1 < UInt64.size)
    (admitted : (Policy.ofConfigured d).admits raw.method = true) (silent : ¬ s.token.Fires) :
    ∃ before last w,
      s.executeRetrying Client.maxTurns (.ofConfigured d) service raw (.start b words) =
        some (.ok ⟨.ok, ""⟩, w) ∧
      w.journal.choices = (before ++ [last]).map some ∧
      w.journal.attempts.map (·.2.1) =
        before.flatMap (List.replicate d.config.sameInstance.toNat) ++ [last] ∧
      (∀ i ∈ before, ∃ f, b.failing.get? i.id = some f) ∧ b.failing.get? last.id = none ∧
      w.journal.attempts.length ≤ d.config.sameInstance.toNat * (b.pool.length - 1) + 1 := by
  obtain ⟨t, within, rotates⟩ :=
    exists_rotates scripted addressable healthy retried enough usable
  have offered : b.Offered (startedBefore d.config.sameInstance.toNat 0) b :=
    ⟨rfl, rfl, choices, outcomes, by rw [startedBefore_zero, Nat.add_zero]⟩
  have budget : 0 + 1 + (d.budget - 1) = d.budget := by
    have := d.one_le_budget
    omega
  have course := rotates.flatFrom service raw (Nat.zero_le _) budget offered
  rw [startedBefore_zero] at course
  obtain ⟨outcome, chosen, targets⟩ :
      (s.flat d service raw b).outcome = .ok ⟨.ok, ""⟩ ∧
      (s.flat d service raw b).choices = b.choicesFrom d.config.sameInstance.toNat t 0 ∧
      (s.flat d service raw b).attempts.map (·.2.1) =
        b.targetsFrom d.config.sameInstance.toNat t 0 := course
  have length : (s.flat d service raw b).attempts.length ≤
      d.config.sameInstance.toNat * (b.pool.length - 1) + 1 := by
    have made := congrArg List.length targets
    rw [List.length_map, Script.targetsFrom, List.length_map, List.length_range', Nat.sub_zero]
      at made
    rw [made]
    exact Nat.succ_le_succ (Nat.mul_le_mul_left _ within)
  have few : (s.flat d service raw b).attempts.length < Client.maxTurns :=
    Nat.lt_of_le_of_lt length small
  obtain ⟨w, run, -, hchoices, hattempts⟩ :=
    executeRetrying_takes_flat words silent admitted (.inr few)
  rw [outcome] at run
  refine ⟨(List.range t).map b.offer, b.offer t, w, run, ?_, ?_, ?_, rotates.healthy, ?_⟩
  · rw [hchoices, chosen, Script.choicesFrom_zero]
  · rw [hattempts, targets, Script.targetsFrom_zero d.one_le_same]
  · refine List.forall_mem_map.mpr fun n hn => ?_
    obtain ⟨f, hf, -⟩ := rotates.failing n (List.mem_range.mp hn)
    exact ⟨f, hf⟩
  · rw [hattempts]
    exact length

/-- Of three instances only the first is healthy, and it is offered last. -/
theorem executeRetrying_healthy_last :
    let config : RetryConfig := { RetryConfig.default with sameInstance := 2, nextInstance := 2 }
    let d : Policy.Configured := ⟨config, none, none, rfl, rfl⟩
    let b : Script := { Script.empty with
      pool := [.sample "a", .sample "b", .sample "c"], cursor := 1,
      failing := (OrderedMap.empty.insert "b" ⟨.connect, "refused"⟩).insert "c" ⟨.reset, "closed"⟩ }
    ∃ (before : List Instance) (last : Instance) (w : World Script),
      (Setup.sample .never).executeRetrying Client.maxTurns (.ofConfigured d) "users" .sample
          (.start b (.constant 0)) = some (.ok ⟨.ok, ""⟩, w) ∧
      w.journal.choices = (before ++ [last]).map some ∧
      w.journal.attempts.map (·.2.1) = before.flatMap (List.replicate 2) ++ [last] ∧
      w.journal.attempts.map (·.2.1.id) = ["b", "b", "c", "c", "a"] := by
  intro config d b
  have addressable : ∀ i ∈ b.pool, i.Addressable := by
    simp only [b, List.forall_mem_cons]
    exact ⟨⟨_, rfl⟩, ⟨_, rfl⟩, ⟨_, rfl⟩, nofun⟩
  have retried : ∀ id f, b.failing.get? id = some f → d.retriesFailure f = true := by
    intro id f hf
    simp only [b, OrderedMap.get?_insert] at hf
    split at hf
    · cases hf
      decide
    · split at hf
      · cases hf
        decide
      · cases hf
  -- No status code is configured, so none is worth a retry.
  have usable : (Policy.ofConfigured d).retriesStatus .ok = false :=
    Bool.eq_false_iff.mpr fun retried =>
      List.not_mem_nil (Policy.ofConfigured_retriesStatus_iff.mp retried)
  obtain ⟨before, last, w, run, choices, targets, -⟩ : ∃ before last w,
      (Setup.sample .never).executeRetrying Client.maxTurns (.ofConfigured d) "users" .sample
          (.start b (.constant 0)) = some (.ok ⟨.ok, ""⟩, w) ∧
      w.journal.choices = (before ++ [last]).map some ∧
      w.journal.attempts.map (·.2.1) = before.flatMap (List.replicate 2) ++ [last] ∧
      (∀ i ∈ before, ∃ f, b.failing.get? i.id = some f) ∧ b.failing.get? last.id = none ∧
      w.journal.attempts.length ≤ 2 * (b.pool.length - 1) + 1 :=
    executeRetrying_healthy rfl rfl rfl addressable
      ⟨.sample "a", List.mem_cons_self, by decide⟩ retried (by decide) usable (by decide)
      (by decide) Trigger.not_fires_never
  have made : ((Setup.sample .never).executeRetrying Client.maxTurns (.ofConfigured d) "users"
      .sample (.start b (.constant 0))).map (·.2.journal.attempts.map (·.2.1.id)) =
      some ["b", "b", "c", "c", "a"] := by decide +kernel
  rw [run] at made
  exact ⟨before, last, w, run, choices, targets, Option.some.inj made⟩

end Setup

end Failover
