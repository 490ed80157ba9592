import Failover.Proofs.Call.Entries

/-!
# Cancellation — tokens that fire at the moments of a call

A token fires before the call, inside an attempt or in a wait, and then it stays fired.  `Timely`
says so of a token, entry by entry.

* `Trigger.timely`: every trigger that names such a moment gives a timely token.

The triggers at a choice and at an event are left out: such a token fires between a choice and the
attempt it is made for, where the call does not look at it.
-/

namespace Failover

/-- Whether a token can fire in the entry: inside an attempt, or in a wait. -/
def Entry.isMoment : Entry → Bool
  | .attempted .. => true
  | .slept _ => true
  | .waited _ => true
  | _ => false

theorem Entry.isMoment_of_isNote {e : Entry} (h : e.isNote = true) : e.isMoment = false := by
  cases e <;> first | rfl | cases h

theorem Entry.isPause_of_not_isMoment {e : Entry} (h : e.isMoment = false) : e.isPause = false := by
  cases e <;> first | rfl | cases h

/-- The token fires only at the moments of a call, and stays fired. -/
structure Cancellation.Timely (t : Cancellation) : Prop where
  stays : ∀ {j e}, t.fired j = true → t.fired (j.add e) = true
  moments : ∀ {j e}, t.fired j = false → e.isMoment = false → t.fired (j.add e) = false
  /-- A wait in which the token does not fire leaves it unfired. -/
  waits : ∀ {j d}, t.fired j = false → t.during j d = none → t.fired (j.add (.waited d)) = false

/-! ### Time -/

namespace Journal

variable {j : Journal} {e : Entry} {es fs : List Entry} {now start : Duration} {n : Nat}

/-- An entry adds the time that it takes. -/
theorem elapsed_add : (j.add e).elapsed = j.elapsed + timeOf e := by
  rw [elapsed_eq, elapsed_eq, toList_add, List.foldl_append]
  rfl

/-- An attempt that has begun began when it did. -/
theorem attemptTimeFrom_append (h : attemptTimeFrom now es n = some start) :
    attemptTimeFrom now (es ++ fs) n = some start := by
  fun_induction attemptTimeFrom now es n with
  | case1 => cases h
  | case2 => cases h
  | case3 => exact h
  | case4 now es n service i r ih => exact ih h
  | case5 now es e n hzero hfirst hlater ih =>
      rw [List.cons_append, attemptTimeFrom]
      · exact ih h
      · exact hzero
      · exact hfirst
      · exact hlater

/-- Only an attempt can be the `n`-th. -/
theorem attemptTimeFrom_concat (h : attemptOf? e = none) :
    attemptTimeFrom now (es ++ [e]) n = attemptTimeFrom now es n := by
  fun_induction attemptTimeFrom now es n with
  | case1 now n =>
      cases n with
      | zero => rfl
      | succ n => cases e <;> simp [attemptTimeFrom, attemptOf?] at h ⊢
  | case2 => rfl
  | case3 => rfl
  | case4 now es n service i r ih => exact ih
  | case5 now es e n hzero hfirst hlater ih =>
      rw [List.cons_append, attemptTimeFrom]
      · exact ih
      · exact hzero
      · exact hfirst
      · exact hlater

/-- The time of an attempt stands once it has begun. -/
theorem attemptTime?_add_of_some (h : j.attemptTime? n = some start) :
    (j.add e).attemptTime? n = some start := by
  rw [attemptTime?, toList_add]
  exact attemptTimeFrom_append h

theorem attemptTime?_add_of_not (h : attemptOf? e = none) :
    (j.add e).attemptTime? n = j.attemptTime? n := by
  rw [attemptTime?, toList_add, attemptTimeFrom_concat h]
  rfl

end Journal

/-! ### Triggers -/

namespace Trigger

variable {sink : Sink} {t : Trigger} {n : Nat} {time : Duration}

/-- Whether the trigger names a moment before the call, inside an attempt or in a wait. -/
def namesMoment : Trigger → Bool
  | .atChoice _ => false
  | .atEvent .. => false
  | _ => true

/-- A trigger that names a moment counts nothing else. -/
theorem counts_of_not_isMoment {e : Entry} (ht : t.namesMoment = true) (he : e.isMoment = false) :
    t.counts sink e = false := by
  cases t <;> cases e <;> simp_all [counts, namesMoment, Entry.isMoment]

theorem counts_waited {d : Duration} : t.counts sink (.waited d) = false := by
  cases t <;> rfl

/-- Counted entries stay in the journal. -/
theorem reached_add {j : Journal} {e : Entry} (h : t.reached sink n j = true) :
    t.reached sink n (j.add e) = true := by
  simp only [reached, Bool.and_eq_true, decide_eq_true_eq] at h ⊢
  obtain ⟨pos, reached⟩ := h
  refine ⟨pos, ?_⟩
  rw [Journal.add, Array.countP_push]
  omega

/-- What a trigger does not count does not bring its moment nearer. -/
theorem reached_add_of_not {j : Journal} {e : Entry} (h : t.counts sink e = false) :
    t.reached sink n (j.add e) = t.reached sink n j := by
  rw [reached, reached, Journal.add, Array.countP_push, h]
  rfl

/-- A token that fires when a number of entries has been reached. -/
theorem timely_of_reached (ht : t.namesMoment = true)
    (hf : ∀ j, (t.cancellation sink).fired j = t.reached sink n j) :
    (t.cancellation sink).Timely where
  stays h := by
    rw [hf] at h ⊢
    exact reached_add h
  moments h he := by
    rw [hf] at h ⊢
    rw [reached_add_of_not (counts_of_not_isMoment ht he), h]
  waits h _ := by
    rw [hf] at h ⊢
    rw [reached_add_of_not counts_waited, h]

/-- A token with a deadline has fired once more time has passed. -/
theorem fired_afterAttempt {j : Journal} {start : Duration} (h : j.attemptTime? n = some start) :
    (Trigger.afterAttempt n time).fired sink j = decide (start + time < j.elapsed) := by
  simp only [fired, h]

/-- A token that fires some time after an attempt has begun. -/
theorem timely_afterAttempt : ((Trigger.afterAttempt n time).cancellation sink).Timely where
  stays {j e} h := by
    change (Trigger.afterAttempt n time).fired sink j = true at h
    change (Trigger.afterAttempt n time).fired sink (j.add e) = true
    cases hs : j.attemptTime? n with
    | none =>
        simp only [fired, hs] at h
        cases h
    | some start =>
        rw [fired_afterAttempt hs, decide_eq_true_eq, Duration.lt_iff] at h
        rw [fired_afterAttempt (Journal.attemptTime?_add_of_some hs), decide_eq_true_eq,
          Duration.lt_iff, Journal.elapsed_add]
        exact Nat.lt_add_right _ h
  moments {j e} h he := by
    have attempt : Journal.attemptOf? e = none := by
      cases e <;> first | rfl | cases he
    have elapsed : (j.add e).elapsed = j.elapsed := by
      rw [Journal.elapsed_add, Journal.timeOf_of_not_isPause (Entry.isPause_of_not_isMoment he)]
      rfl
    change (Trigger.afterAttempt n time).fired sink (j.add e) = false
    rw [fired, Journal.attemptTime?_add_of_not attempt, elapsed]
    exact h
  waits {j d} h hd := by
    change (Trigger.afterAttempt n time).fired sink (j.add (.waited d)) = false
    have attempt : (j.add (.waited d)).attemptTime? n = j.attemptTime? n :=
      Journal.attemptTime?_add_of_not rfl
    cases hs : j.attemptTime? n with
    | none => simp only [fired, attempt, hs]
    | some start =>
        rw [fired_afterAttempt (attempt.trans hs), Journal.elapsed_add]
        -- The wait would be cut short if the moment came before its end.
        by_cases late : start + time < j.elapsed + d
        · simp [cancellation, during, hs, late] at hd
        · exact decide_eq_false late

/-- **Every trigger before the call, at an attempt, after it or at a wait gives a timely token.** -/
theorem timely (h : t.namesMoment = true) : (t.cancellation sink).Timely := by
  cases t with
  | never => exact ⟨fun h => h, fun _ _ => rfl, fun _ _ => rfl⟩
  | before => exact ⟨fun _ => rfl, fun h _ => h, fun h _ => h⟩
  | atAttempt n => exact timely_of_reached h fun j => rfl
  | afterAttempt n time => exact timely_afterAttempt
  | atChoice n => cases h
  | atSleep n => exact timely_of_reached h fun j => rfl
  | atEvent kind n => cases h

end Trigger

end Failover
