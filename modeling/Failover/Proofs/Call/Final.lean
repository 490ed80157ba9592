import Failover.Proofs.Call.Course
import Failover.Proofs.Call.Once
import Failover.Proofs.Policy.Budget

/-!
# Calls — the failures after which a call ends

A failure to bind a request is final, and so is a failure that the transport reports as a
cancellation: the balancer is not called again.  A configured policy makes no such exception for an
address that a transport reports as unusable.  Such a failure is retried like any other that the
classifier, or without one the configured kinds, accept.

* `Opens.fits`: every attempt of a configured call fits the budgets.
* `attempts_of_cancelled`: a call that its token cancels ends with its last attempt.
* `executeRetrying_final`: which failures are final, and exactly when the third kind is retried.
-/

namespace Failover

namespace Setup

variable {σ : Type} {s : Setup σ} {d : Policy.Configured} {p : Policy} {service : String}
  {raw : Request} {b : σ} {o : Outcome} {c : Context} {w : World σ} {i : Instance} {r : Request}
  {past rest es later : List Entry} {e x : Entry} {events : List Event}

/-! ### Budgets along a journal -/

/-- A call of the balancer leads to an attempt that fits the budgets. -/
def FitsAt (d : Policy.Configured) (c : Context) : Entry → Prop
  | .chose _ (some i) => d.Fits (c.bind i).recordAttempt
  | .attempted .. => d.Fits c.recordAttempt
  | _ => True

theorem fitsAt_of_quiet (h : e.isCall = false) : FitsAt d c e := by
  cases e <;> trivial

/-- What follows a call of the balancer that fits the budgets fits them too. -/
theorem Onward.fitsAt (fits : FitsAt d (.replay service past) e)
    (h : s.Onward (.ofConfigured d) service raw b o past e events x) :
    FitsAt d (events.foldl Context.hear (.replay service (past ++ [e]))) x := by
  rw [Context.replay_append, List.foldl_cons, List.foldl_nil]
  cases h with
  | chosen bind => exact fits
  | @retried c i r last delay x counted verdict move after =>
      subst counted
      have fits : d.Fits (Context.replay service past).recordAttempt := fits
      generalize hm : (Policy.ofConfigured d).move _ = m at *
      cases after with
      | same hsame =>
          subst hsame
          exact fits.same (Policy.move_eq_same_iff.mp hm)
      | @next choice hnext =>
          subst hnext
          obtain ⟨hs, hn⟩ := Policy.move_eq_next_iff.mp hm
          cases choice with
          | none => trivial
          | some j => exact fits.next hs hn

/-- Every attempt of a configured call fits the budgets. -/
theorem Opens.fits (opens : Opens o (.fresh service) later)
    (lawful : Everywhere (s.Lawful (.ofConfigured d) service raw b o) [] later) :
    Everywhere (fun past e _ => FitsAt d (.replay service past) e) [] later := by
  refine lawful_everywhere (P := FitsAt d) (fun _ _ => fitsAt_of_quiet)
    (fun _ _ _ _ fits onward => onward.fitsAt fits) lawful
    fun events x continues => ?_
  cases opens with
  | kept bound => cases bound
  | @chosen choice unbound continues' =>
      obtain ⟨rfl, hx⟩ := continues'.unique continues
      obtain rfl := Option.some.inj hx
      cases choice with
      | none => trivial
      | some j => exact .first d.one_le_same
  | fired unbound continues' => cases (continues'.unique continues).2

/-! ### Calls that their token cancels -/

/-- Entries with a call have a last one. -/
theorem exists_last_call (h : ∃ e ∈ es, e.isCall = true) :
    ∃ past e rest, es = past ++ e :: rest ∧ e.isCall = true ∧ ∀ x ∈ rest, x.isCall = false := by
  induction es with
  | nil =>
      obtain ⟨e, he, -⟩ := h
      cases he
  | cons e es ih =>
      by_cases later : ∃ x ∈ es, x.isCall = true
      · obtain ⟨past, x, rest, rfl, hx, quiet⟩ := ih later
        exact ⟨e :: past, x, rest, rfl, hx, quiet⟩
      · have quiet : ∀ x ∈ es, x.isCall = false := by simpa using later
        obtain ⟨x, hx, hc⟩ := h
        rcases List.mem_cons.mp hx with rfl | hx
        · exact ⟨[], x, es, rfl, hc, quiet⟩
        · exact absurd ⟨x, hx, hc⟩ later

theorem AfterReply.attempts_of_cancelled {reply : Except Failure Response} {k : Nat}
    (h : s.AfterReply p o past i c reply rest) (quiet : ∀ x ∈ rest, x.isCall = false)
    (ho : o = .error (.cancelled service k)) : k = c.attempts := by
  subst ho
  have of_cancelled {c' : Context}
      (h : (.error (.cancelled service k) : Outcome) = cancelledOutcome c') : k = c'.attempts := by
    cases h
    rfl
  unfold AfterReply at h
  cases hv : p.verdict reply with
  | usable response =>
      rw [hv] at h
      cases h.2
  | cancelled =>
      rw [hv] at h
      exact of_cancelled h.2
  | fatal f =>
      rw [hv] at h
      cases h.2
  | retryable last =>
      rw [hv] at h
      dsimp only [AfterFailure] at h
      split at h
      · split at h
        · cases last <;> cases h.2
        · cases h.2
      · split at h
        · exact of_cancelled h.2
        · obtain ⟨delay, next, continues, after⟩ := h
          cases after with
          | cancelled outcome => exact of_cancelled outcome
          | same => exact absurd quiet continues.not_quiet
          | next => exact absurd quiet continues.not_quiet

/-- A call that its token cancels has made more attempts than before any but its last call of the
balancer. -/
theorem attempts_of_cancelled {k : Nat}
    (lawful : Everywhere (s.Lawful p service raw b o) past later)
    (called : ∃ e ∈ later, e.isCall = true) (ho : o = .error (.cancelled service k)) :
    (Journal.ofList past).attempts.length < k := by
  obtain ⟨mid, e, rest, rfl, he, quiet⟩ := exists_last_call called
  have last := lawful mid e rest rfl
  subst ho
  -- The last call is an attempt: a choice is followed by one, unless the call ends otherwise.
  cases e with
  | chose service' choice =>
      obtain ⟨-, -, after⟩ := last
      cases choice with
      | none => cases after.2
      | some j =>
          cases hb : s.pipeline.bind raw j
              (((Context.replay service (past ++ mid)).bind j).attempts + 1) with
          | error f => cases (after.unaddressable f hb).2
          | ok r => exact absurd quiet (after.attempted r hb).not_quiet
  | attempted service' j r =>
      obtain ⟨-, ordinal, -, reply⟩ := last
      rw [reply.attempts_of_cancelled quiet rfl, ordinal]
      have : (Journal.ofList (past ++ mid)).attempts.length =
          (Journal.ofList past).attempts.length + (Journal.ofList mid).attempts.length := by
        rw [Journal.attempts_of_append Journal.toList_ofList, List.length_append]
      omega
  | combined service' => exact last.elim
  | asked _ => cases he
  | emitted _ => cases he
  | logged _ => cases he
  | slept _ => cases he
  | waited _ => cases he

/-! ### Failures that end a call -/

/-- When a configuration counts a failure as one to retry. -/
theorem verdict_invalidAddress {f : Failure} (h : f.kind = .invalidAddress) :
    (Policy.ofConfigured d).verdict (.error f) =
      if d.classifier.elim (d.config.failures.contains .invalidAddress) (· f)
      then .retryable (.failure f) else .fatal f := by
  simp only [Policy.verdict, Failure.isCancelled, Policy.ofConfigured,
    Policy.Configured.retriesFailure, h]
  cases d.classifier <;> rfl

/-- What becomes of a configured call after a failure of the two kinds that are meant to be final:
an address that cannot be used, and a cancellation that the transport reports. -/
structure Final (s : Setup σ) (d : Policy.Configured) (service : String) (raw : Request) (b : σ)
    (o : Outcome) (j : Journal) : Prop where
  /-- A request that cannot be bound to the chosen instance ends the call. -/
  unbound : ∀ past service' i f rest, j.toList = past ++ .chose service' (some i) :: rest →
    s.pipeline.bind raw i ((Journal.ofList past).attempts.length + 1) = .error f →
      f.kind = .invalidAddress ∧ o = .error (.connectivity service f) ∧
        ∀ e ∈ rest, e.isCall = false
  /-- A cancellation that the transport reports ends the call. -/
  cancelled : ∀ past service' i r f rest, j.toList = past ++ .attempted service' i r :: rest →
    (s.balancer.executeOn service' i r (s.balancer.replay b past)).1 = .error f →
      f.kind = .cancelled → ∀ e ∈ rest, e.isCall = false
  /-- An unusable address that the transport reports is retried exactly if the method may be, the
  classifier or the configured kinds accept it, the budget lasts, and the token does not cancel the
  call first. -/
  invalidAddress : ∀ past service' i r f rest,
    j.toList = past ++ .attempted service' i r :: rest →
    (s.balancer.executeOn service' i r (s.balancer.replay b past)).1 = .error f →
      f.kind = .invalidAddress →
        ((∃ e ∈ rest, e.isCall = true) ↔
          (Policy.ofConfigured d).admits raw.method = true ∧
          d.classifier.elim (d.config.failures.contains .invalidAddress) (· f) = true ∧
          (Journal.ofList past).attempts.length + 1 < d.budget ∧
          o ≠ .error (.cancelled service ((Journal.ofList past).attempts.length + 1)))

/-- A cancellation that the transport reports is followed by nothing. -/
theorem AfterReply.quiet_of_cancelled {f : Failure} (hf : f.kind = .cancelled)
    (h : s.AfterReply p o past i c (.error f) rest) : ∀ e ∈ rest, e.isCall = false := by
  have hv : p.verdict (.error f) = .cancelled := by simp [Policy.verdict, Failure.isCancelled, hf]
  rw [AfterReply, hv] at h
  exact h.1.tells.quiet

/-- An unusable address that the transport reports is followed by another call of the balancer
exactly if it counts as one to retry and the budget lasts. -/
theorem AfterReply.exists_call_iff {f : Failure} (hf : f.kind = .invalidAddress)
    (fits : d.Fits c) (live : (∃ e ∈ rest, e.isCall = true) → o ≠ cancelledOutcome c)
    (h : s.AfterReply (.ofConfigured d) o past i c (.error f) rest) :
    (∃ e ∈ rest, e.isCall = true) ↔
      d.classifier.elim (d.config.failures.contains .invalidAddress) (· f) = true ∧
        c.attempts < d.budget ∧ o ≠ cancelledOutcome c := by
  have hv := verdict_invalidAddress (d := d) hf
  constructor
  · intro called
    obtain ⟨x, hx⟩ : ∃ x, rest.find? (·.isCall) = some x := by
      rw [← Option.isSome_iff_exists, List.find?_isSome]
      exact called
    obtain ⟨last, delay, verdict, move, -, -⟩ := h.onward ⟨rfl, hx⟩
    refine ⟨?_, (Policy.move_ne_giveUp_iff fits).mp move, live called⟩
    by_cases accepted : d.classifier.elim (d.config.failures.contains .invalidAddress) (· f) = true
    · exact accepted
    · rw [hv, if_neg accepted] at verdict
      cases verdict
  · rintro ⟨accepted, within, live⟩
    rw [if_pos accepted] at hv
    obtain ⟨events, x, continues⟩ :=
      h.granted hv ((Policy.move_ne_giveUp_iff fits).mpr within) live
    exact continues.exists_call_iff.mpr rfl

/-! ### Whole calls -/

/-- A lawful call ends as its last call to the balancer calls for. -/
theorem final_of_lawful {j : Journal} (admitted : (Policy.ofConfigured d).admits raw.method = true)
    (lawful : Everywhere (s.Lawful (.ofConfigured d) service raw b o) [] j.toList)
    (opens : Opens o (.fresh service) j.toList) : s.Final d service raw b o j := by
  refine ⟨?_, ?_, ?_⟩
  · intro past service' i f rest hj hb
    obtain ⟨-, -, after⟩ := lawful past _ rest hj
    have hc : ((Context.replay service past).bind i).attempts =
        (Journal.ofList past).attempts.length := Context.replay_attempts
    rw [← hc] at hb
    obtain ⟨continues, outcome⟩ := after.unaddressable f hb
    exact ⟨Pipeline.kind_of_bind_error hb, outcome, continues.tells.quiet⟩
  · intro past service' i r f rest hj answer hf
    obtain ⟨rfl, -, -, reply⟩ := lawful past _ rest hj
    rw [List.nil_append, answer] at reply
    exact reply.quiet_of_cancelled hf
  · intro past service' i r f rest hj answer hf
    have fits := opens.fits lawful past _ rest hj
    obtain ⟨rfl, ordinal, -, reply⟩ := lawful past _ rest hj
    rw [List.nil_append] at fits ordinal reply
    rw [answer] at reply
    have service_eq : (Context.replay service' past).recordAttempt.service = service' :=
      Context.replay_service
    have outcome : cancelledOutcome (Context.replay service' past).recordAttempt =
        .error (.cancelled service' ((Journal.ofList past).attempts.length + 1)) := by
      rw [cancelledOutcome, ordinal, service_eq]
    -- Were the call cancelled with these attempts, a later call would have counted one more.
    have live (called : ∃ e ∈ rest, e.isCall = true) :
        o ≠ cancelledOutcome (Context.replay service' past).recordAttempt := by
      intro ho
      rw [outcome] at ho
      rw [hj, ← List.singleton_append, ← List.append_assoc] at lawful
      have counted := attempts_of_cancelled lawful.drop called ho
      rw [List.nil_append, Journal.attempts_of_append Journal.toList_ofList,
        List.length_append] at counted
      exact Nat.lt_irrefl _ counted
    rw [reply.exists_call_iff hf fits live, ordinal, outcome]
    simp [admitted]

/-- A call of the balancer comes only after the entries that leave it alone. -/
theorem split_of_quiet {pre xs : List Entry} (quiet : ∀ e ∈ pre, e.isCall = false)
    (he : e.isCall = true) (h : pre ++ xs = past ++ e :: rest) :
    ∃ mid, past = pre ++ mid ∧ xs = mid ++ e :: rest := by
  rcases List.append_eq_append_iff.mp h with ⟨mid, rfl, hxs⟩ | ⟨mid, rfl, hxs⟩
  · exact ⟨mid, rfl, hxs⟩
  · cases mid with
    | nil => exact ⟨[], by simp, hxs.symm⟩
    | cons y mid =>
        obtain ⟨rfl, -⟩ := List.cons.inj hxs
        rw [quiet e (by simp)] at he
        cases he

/-- A bypassed call makes one attempt at most, and nothing follows it. -/
theorem final_of_once {j : Journal} {pre tail : List Entry}
    (refused : (Policy.ofConfigured d).admits raw.method = false)
    (hj : j.toList = pre ++ .combined service :: tail) (quiet : ∀ e ∈ pre, e.isCall = false)
    (once : s.Once service raw o tail) : s.Final d service raw b o j := by
  have split {past rest : List Entry} {e : Entry} (h : j.toList = past ++ e :: rest)
      (he : e.isCall = true) (hc : e ≠ .combined service) :
      ∃ mid, past = pre ++ .combined service :: mid ∧ tail = mid ++ e :: rest := by
    obtain ⟨mid, rfl, hmid⟩ := split_of_quiet quiet he (hj.symm.trans h)
    cases mid with
    | nil => exact absurd (List.cons.inj hmid).1.symm hc
    | cons y mid =>
        obtain ⟨rfl, rfl⟩ := List.cons.inj hmid
        exact ⟨mid, rfl, rfl⟩
  refine ⟨?_, ?_, ?_⟩
  · intro past service' i f rest h hb
    obtain ⟨mid, rfl, rfl⟩ := split h rfl (by simp)
    obtain ⟨rfl, ends⟩ := once.chose_first
    have none : (Journal.ofList (pre ++ [.combined service])).attempts = [] := by
      rw [Journal.attempts_of_append Journal.toList_ofList,
        (⟨quiet, rfl⟩ : Tells pre _).attempts]
      rfl
    rw [none] at hb
    obtain ⟨outcome, rest⟩ := ends f hb
    exact ⟨Pipeline.kind_of_bind_error hb, outcome, rest⟩
  · intro past service' i r f rest h answer hf
    obtain ⟨mid, rfl, rfl⟩ := split h rfl (by simp)
    rw [once.attempted_last]
    intro e he
    cases he
  · intro past service' i r f rest h answer hf
    obtain ⟨mid, rfl, rfl⟩ := split h rfl (by simp)
    rw [once.attempted_last]
    simp [refused]

/-- **The failures that end a call.**  In every run under a configured policy a request that cannot
be bound, and a cancellation that the transport reports, end the call; an unusable address that the
transport reports does not, wherever the configuration accepts it and the budget lasts. -/
theorem executeRetrying_final {limit : Nat} {words : Words}
    (run : s.executeRetrying limit (.ofConfigured d) service raw (.start b words) = some (o, w)) :
    s.Final d service raw b o w.journal := by
  cases ha : (Policy.ofConfigured d).admits raw.method with
  | true =>
      obtain ⟨lawful, opens⟩ := executeRetrying_course (fun _ => ha) run
      exact final_of_lawful ha lawful opens
  | false =>
      rw [executeRetrying] at run
      cases hf : s.cancelled (.start b words) with
      | true =>
          rw [if_pos hf] at run
          cases run
          refine ⟨?_, ?_, ?_⟩ <;> simp [World.start]
      | false =>
          rw [if_neg (by simp [hf]), if_neg (by simp [ha]), ha] at run
          obtain ⟨pre, tail, hj, notes, once⟩ := bypass_once (Option.some.inj run)
          have quiet' : ∀ e ∈ .asked (.admits raw.method false) :: pre, e.isCall = false := by
            intro e he
            rcases List.mem_cons.mp he with rfl | he
            · rfl
            · exact Entry.isCall_of_isNote (notes e he)
          exact final_of_once ha hj quiet' once

/-- A configuration that retries unusable addresses: the call goes on after one. -/
theorem executeRetrying_final_retried :
    ∃ d : Policy.Configured, ∃ w,
      (Setup.sample .never).executeRetrying 2 (.ofConfigured d) "users" .sample
        (.start (.sample [.error ⟨.invalidAddress, "unusable"⟩]) (.constant 0)) =
          some (.ok ⟨.ok, ""⟩, w) ∧
      w.journal.attempts.length = 2 ∧
      (Setup.sample .never).Final d "users" .sample
        (.sample [.error ⟨.invalidAddress, "unusable"⟩]) (.ok ⟨.ok, ""⟩) w.journal := by
  let config : RetryConfig := { RetryConfig.default with failures := .ofList [.invalidAddress] }
  let d : Policy.Configured := ⟨config, none, none, rfl, rfl⟩
  have run : ((Setup.sample .never).executeRetrying 2 (.ofConfigured d) "users" .sample
      (.start (.sample [.error ⟨.invalidAddress, "unusable"⟩]) (.constant 0))).map
        (fun x => (x.1.toOption, x.2.journal.attempts.length)) = some (some ⟨.ok, ""⟩, 2) := by
    decide +kernel
  obtain ⟨⟨o, w⟩, run, hx⟩ := Option.map_eq_some_iff.mp run
  obtain ⟨ho, attempts⟩ := Prod.mk.inj hx
  cases o with
  | error e => cases ho
  | ok r =>
      obtain rfl := Option.some.inj ho
      exact ⟨d, w, run, attempts, executeRetrying_final run⟩

end Setup

end Failover
