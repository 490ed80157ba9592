import Failover.Proofs.Call.Course

/-!
# Calls — the account that the events give

The events of a call that is not bypassed account for its run.  Between two calls of the balancer
they are those that `AfterChoice` and `AfterAttempt` name; and of the two events that report an
end there is at most one, the last event of all, by the outcome.

* `Policy.closing`: the event with which an outcome is reported.
* `events_closing`: no event but the last reports an end, and the last does if the outcome is to
  be reported.
* `executeRetrying_accounts`: the whole account.
-/

namespace Failover

/-- Whether an event reports the end of a call. -/
def Event.isTerminal : Event → Bool
  | .succeeded .. => true
  | .exhausted .. => true
  | _ => false

namespace Policy

/-- The event with which a call that may retry reports its end: a usable response, or attempts
that ran out after the first.  No other outcome is reported. -/
def closing (p : Policy) (service : String) (o : Outcome) (j : Journal) : Option Event :=
  match o with
  | .ok r =>
    if p.retriesStatus r.status then none
    else some (.succeeded service j.attempts.length j.elapsed)
  | .error (.budgetExhausted service attempts distinct _) =>
    some (.exhausted service attempts distinct j.elapsed)
  | .error _ => none

variable {p : Policy} {reply : Except Failure Response} {r : Response} {last : LastOutcome}

/-- A reply is handed to the caller exactly if it is a response that is not worth a retry. -/
theorem verdict_eq_usable_iff :
    p.verdict reply = .usable r ↔ reply = .ok r ∧ p.retriesStatus r.status = false := by
  unfold verdict
  constructor
  · intro h
    cases reply with
    | ok r' =>
        cases hr : p.retriesStatus r'.status with
        | true => simp [hr] at h
        | false =>
            obtain rfl : r' = r := by simpa [hr] using h
            exact ⟨rfl, hr⟩
    | error f =>
        dsimp only at h
        split at h
        · cases h
        · split at h <;> cases h
  · rintro ⟨rfl, hr⟩
    simp [hr]

/-- The outcomes worth another attempt: a retryable status, and a retryable failure other than a
cancellation. -/
theorem verdict_eq_retryable_iff :
    p.verdict reply = .retryable last ↔
      (∃ r, reply = .ok r ∧ p.retriesStatus r.status = true ∧ last = .response r) ∨
      ∃ f, reply = .error f ∧ f.kind ≠ .cancelled ∧ p.retriesFailure f = true ∧
        last = .failure f := by
  unfold verdict
  constructor
  · intro h
    cases reply with
    | ok r =>
        cases hr : p.retriesStatus r.status with
        | true => exact .inl ⟨r, rfl, hr, by simpa [hr, eq_comm] using h⟩
        | false => simp [hr] at h
    | error f =>
        dsimp only at h
        split at h
        · cases h
        · rename_i hc
          split at h
          · rename_i hf
            cases h
            exact .inr ⟨f, rfl, by simpa [Failure.isCancelled] using hc, hf, rfl⟩
          · cases h
  · rintro (⟨r, rfl, hr, rfl⟩ | ⟨f, rfl, hc, hf, rfl⟩)
    · simp [hr]
    · simp [Failure.isCancelled, hc, hf]

/-- An only attempt whose outcome could have been retried is not reported. -/
theorem closing_asOutcome {service : String} {j : Journal} (h : p.verdict reply = .retryable last) :
    p.closing service (last.asOutcome service) j = none := by
  rcases verdict_eq_retryable_iff.mp h with ⟨r, -, hr, rfl⟩ | ⟨f, -, -, -, rfl⟩
  · rw [LastOutcome.asOutcome, closing, if_pos hr]
  · rfl

end Policy

namespace Setup

variable {σ : Type}

/-- What is told after a call of the balancer: nothing terminal if it is called again, and with
the last call what the outcome calls for. -/
inductive Tail (p : Policy) (service : String) (o : Outcome) (j : Journal) :
    List Event → Option Entry → Prop where
  | onward {events : List Event} {next : Entry} (quiet : ∀ e ∈ events, e.isTerminal = false) :
      Tail p service o j events (some next)
  | unreported {events : List Event} (quiet : ∀ e ∈ events, e.isTerminal = false)
      (closing : p.closing service o j = none) : Tail p service o j events none
  | reported {events : List Event} {x : Event} (quiet : ∀ e ∈ events, e.isTerminal = false)
      (closing : p.closing service o j = some x) : Tail p service o j (events ++ [x]) none

variable {s : Setup σ} {p : Policy} {service : String} {raw : Request} {b : σ} {o : Outcome}
  {c : Context} {j : Journal} {w : World σ} {i : Instance} {reply : Except Failure Response}
  {past rest es : List Entry} {e : Entry}

/-- The end of a call tells nothing terminal but what its outcome calls for. -/
theorem Tail.eq_closing {events : List Event} (h : Tail p service o j events none) :
    ∃ pre, events = pre ++ (p.closing service o j).toList ∧ ∀ e ∈ pre, e.isTerminal = false := by
  cases h with
  | unreported quiet closing => exact ⟨events, by rw [closing, Option.toList_none, List.append_nil],
      quiet⟩
  | reported quiet closing => exact ⟨_, by rw [closing, Option.toList_some], quiet⟩

theorem isTerminal_nil : ∀ e ∈ ([] : List Event), e.isTerminal = false := fun _ h => nomatch h

/-- After a choice there is another call to the balancer, or the end. -/
theorem AfterChoice.tail {choice : Option Instance}
    (h : s.AfterChoice service raw o past choice rest) :
    ∃ events next, Continues rest events next ∧ Tail p service o j events next := by
  cases choice with
  | none =>
      obtain ⟨continues, rfl⟩ := h
      exact ⟨[], none, continues, .unreported isTerminal_nil rfl⟩
  | some i =>
      cases hb : s.pipeline.bind raw i (((Context.replay service past).bind i).attempts + 1) with
      | error f =>
          obtain ⟨continues, rfl⟩ := h.unaddressable f hb
          exact ⟨_, none, continues, .unreported (by simp [Event.isTerminal]) rfl⟩
      | ok r => exact ⟨_, _, h.attempted r hb, .onward (by simp [Event.isTerminal])⟩

/-- `j` is the whole journal, whose last attempt has been counted. -/
theorem AfterFailure.tail {last : LastOutcome} (verdict : p.verdict reply = .retryable last)
    (hj : j.toList = past ++ rest)
    (h : s.AfterFailure p o past i c last rest) :
    ∃ events next, Continues rest events next ∧ Tail p c.service o j events next := by
  obtain rfl : j = .ofList (past ++ rest) := Journal.toList_injective hj
  unfold AfterFailure at h
  dsimp only at h
  split at h
  · split at h
    · obtain ⟨continues, rfl⟩ := h
      exact ⟨_, none, continues,
        .unreported (by simp [Event.isTerminal]) (Policy.closing_asOutcome verdict)⟩
    · obtain ⟨continues, rfl⟩ := h
      exact ⟨[_] ++ [_], none, continues, .reported (by simp [Event.isTerminal]) rfl⟩
  · split at h
    · obtain ⟨continues, rfl⟩ := h
      exact ⟨_, none, continues, .unreported (by simp [Event.isTerminal]) rfl⟩
    · obtain ⟨delay, next, continues, after⟩ := h
      refine ⟨_, next, continues, ?_⟩
      have quiet : ∀ e ∈ [Event.attemptFailed c.service i.id c.attempts last.text,
          .retryScheduled c.service (decide (p.move c = .same)) delay], e.isTerminal = false := by
        simp [Event.isTerminal]
      cases after with
      | cancelled outcome => exact .unreported quiet (by rw [outcome]; rfl)
      | same move => exact .onward quiet
      | next move => exact .onward quiet

/-- So it is after a reply. -/
theorem AfterReply.tail (hj : j.toList = past ++ rest)
    (counted : (Journal.ofList rest).attempts = [] → j.attempts.length = c.attempts)
    (h : s.AfterReply p o past i c reply rest) :
    ∃ events next, Continues rest events next ∧ Tail p c.service o j events next := by
  unfold AfterReply at h
  cases hv : p.verdict reply with
  | usable r =>
      rw [hv] at h
      obtain ⟨continues, rfl⟩ := h
      obtain ⟨-, hr⟩ := Policy.verdict_eq_usable_iff.mp hv
      have hc := counted continues.tells.attempts
      refine ⟨[] ++ [_], none, continues, .reported isTerminal_nil ?_⟩
      rw [Policy.closing, if_neg (by simp [hr]), hc, ← hj]
      rfl
  | cancelled =>
      rw [hv] at h
      obtain ⟨continues, rfl⟩ := h
      exact ⟨_, none, continues, .unreported isTerminal_nil rfl⟩
  | fatal f =>
      rw [hv] at h
      obtain ⟨continues, rfl⟩ := h
      exact ⟨_, none, continues, .unreported isTerminal_nil rfl⟩
  | retryable last =>
      rw [hv] at h
      exact AfterFailure.tail hv hj h

/-- Of every call of the balancer it is known what is told before the next. -/
theorem Lawful.tail (hj : j.toList = past ++ e :: rest) (he : e.isCall = true)
    (h : s.Lawful p service raw b o past e rest) :
    ∃ events next, Continues rest events next ∧ Tail p service o j events next := by
  cases e with
  | chose service' choice => exact h.2.2.tail
  | attempted service' i r =>
      obtain ⟨rfl, ordinal, -, reply⟩ := h
      have hj' : j.toList = (past ++ [.attempted service' i r]) ++ rest := by
        rw [hj, List.append_assoc, List.singleton_append]
      -- The reported number is that of the whole journal; this attempt counts to it unless another
      -- one follows.
      have counted (hr : (Journal.ofList rest).attempts = []) :
          j.attempts.length = (Context.replay service' past).recordAttempt.attempts := by
        rw [ordinal, Journal.attempts_of_append hj', hr, List.append_nil,
          Journal.attempts_of_append Journal.toList_ofList, List.length_append]
        rfl
      have := reply.tail hj' counted
      rwa [Context.recordAttempt, Context.replay_service] at this
  | combined service' => exact h.elim
  | asked _ => cases he
  | emitted _ => cases he
  | logged _ => cases he
  | slept _ => cases he
  | waited _ => cases he

/-! ### The end of the account -/

/-- From a call of the balancer on, and after what is told before it, only the last event may be
terminal. -/
theorem events_closing (hj : j.toList = past ++ es)
    (lawful : Everywhere (s.Lawful p service raw b o) past es)
    (called : ∃ e ∈ es, e.isCall = true) :
    ∃ pre, Journal.eventsIn es = Journal.eventsIn (es.takeWhile (!·.isCall)) ++
        (pre ++ (p.closing service o j).toList) ∧
      ∀ e ∈ pre, e.isTerminal = false := by
  induction es generalizing past with
  | nil =>
      obtain ⟨e, he, -⟩ := called
      cases he
  | cons e es ih =>
      have ih := ih (by rw [hj, List.append_assoc, List.singleton_append]) lawful.tail
      cases he : e.isCall with
      -- An entry that is no call is told of in front of the next call, like those before it.
      | false =>
          have called' : ∃ e ∈ es, e.isCall = true := by
            obtain ⟨x, hx, hc⟩ := called
            rcases List.mem_cons.mp hx with rfl | hx
            · rw [he] at hc
              cases hc
            · exact ⟨x, hx, hc⟩
          obtain ⟨pre, hpre, quiet⟩ := ih called'
          refine ⟨pre, ?_, quiet⟩
          rw [List.takeWhile_cons, he]
          change Journal.eventsIn ([e] ++ es) =
            Journal.eventsIn ([e] ++ es.takeWhile (!·.isCall)) ++ _
          rw [Journal.eventsIn_append, Journal.eventsIn_append, hpre, List.append_assoc]
      | true =>
          have hes : Journal.eventsIn (e :: es) = Journal.eventsIn es := by
            cases e <;> first | rfl | cases he
          rw [List.takeWhile_cons, he, hes]
          -- What the law says of this call reaches to the next one, where the induction takes over.
          obtain ⟨events, next, continues, tail⟩ := lawful.head.tail hj he
          cases next with
          | none =>
              rw [continues.tells.told]
              exact tail.eq_closing
          | some x =>
              have hx := continues.called
              obtain ⟨pre, hpre, quiet⟩ :=
                ih ⟨x, List.mem_of_find?_eq_some hx, List.find?_some hx⟩
              refine ⟨events ++ pre, ?_, ?_⟩
              · rw [hpre, continues.told, List.append_assoc]
                rfl
              · intro y hy
                cases tail with
                | onward quiet' => exact (List.mem_append.mp hy).elim (quiet' y) (quiet y)

/-! ### The whole account -/

/-- The events of a call account for its run. -/
structure Accounts (s : Setup σ) (p : Policy) (service : String) (raw : Request) (b : σ)
    (o : Outcome) (j : Journal) : Prop where
  /-- Before the first choice nothing is told; without a choice the call is cancelled. -/
  opening : Opens o (.fresh service) j.toList
  /-- A chosen instance is told of before the attempt on it, and an instance that is not attempted
  is told of last. -/
  choice : ∀ past service' choice rest, j.toList = past ++ .chose service' choice :: rest →
    service' = service ∧ s.AfterChoice service raw o past choice rest
  /-- An attempt is followed by the events that its reply, the counters and the token call for, and
  by a selection only where the instance is not kept. -/
  attempt : ∀ past service' i r rest, j.toList = past ++ .attempted service' i r :: rest →
    service' = service ∧ s.AfterAttempt p service raw b o past i r rest
  /-- Nothing terminal is told but what the outcome calls for, at the very end. -/
  closing : ∃ pre, j.events = pre ++ (p.closing service o j).toList ∧
    ∀ e ∈ pre, e.isTerminal = false
  exhausted : ∀ service' attempts distinct,
    (∃ time, .exhausted service' attempts distinct time ∈ j.events) ↔
      ∃ last, o = .error (.budgetExhausted service' attempts distinct last)

/-- In a lawful call the one terminal event, where there is one, comes last. -/
theorem opens_closing (opens : Opens o (.fresh service) j.toList)
    (lawful : Everywhere (s.Lawful p service raw b o) [] j.toList) :
    ∃ pre, j.events = pre ++ (p.closing service o j).toList ∧ ∀ e ∈ pre, e.isTerminal = false := by
  have of_call {x : Entry} (continues : Continues j.toList [] (some x)) :
      ∃ pre, j.events = pre ++ (p.closing service o j).toList ∧
        ∀ e ∈ pre, e.isTerminal = false := by
    have hx := continues.called
    obtain ⟨pre, hpre, quiet⟩ := events_closing rfl lawful
      ⟨x, List.mem_of_find?_eq_some hx, List.find?_some hx⟩
    rw [continues.told] at hpre
    exact ⟨pre, hpre, quiet⟩
  cases opens with
  | kept bound continues => exact of_call continues
  | chosen unbound continues => exact of_call continues
  | fired unbound continues outcome =>
      refine ⟨[], ?_, isTerminal_nil⟩
      rw [outcome]
      exact continues.tells.told

/-- That attempts ran out is reported exactly if the outcome says so, with the same numbers. -/
theorem mem_exhausted_iff
    (h : ∃ pre, j.events = pre ++ (p.closing service o j).toList ∧
      ∀ e ∈ pre, e.isTerminal = false) {service' : String} {attempts distinct : Nat} :
    (∃ time, .exhausted service' attempts distinct time ∈ j.events) ↔
      ∃ last, o = .error (.budgetExhausted service' attempts distinct last) := by
  obtain ⟨pre, hpre, quiet⟩ := h
  rw [hpre]
  constructor
  · rintro ⟨time, ht⟩
    rcases List.mem_append.mp ht with ht | ht
    · cases quiet _ ht
    · rw [Option.mem_toList] at ht
      unfold Policy.closing at ht
      split at ht
      · split at ht <;> cases ht
      · cases ht
        exact ⟨_, rfl⟩
      · cases ht
  · rintro ⟨last, rfl⟩
    exact ⟨j.elapsed, List.mem_append_right _ (List.mem_singleton_self _)⟩

/-- **The events of a call account for its run**, under any policy, with any balancer, and
whenever its token fires. -/
theorem executeRetrying_accounts {limit : Nat} {words : Words}
    (retried : s.cancelled (.start b words) = false → p.admits raw.method = true)
    (run : s.executeRetrying limit p service raw (.start b words) = some (o, w)) :
    s.Accounts p service raw b o w.journal := by
  obtain ⟨lawful, opens⟩ := executeRetrying_course retried run
  have closing := opens_closing opens lawful
  refine ⟨opens, ?_, ?_, closing, fun _ _ _ => mem_exhausted_iff closing⟩
  · intro past service' choice rest h
    obtain ⟨hs, -, after⟩ := lawful past _ rest h
    exact ⟨hs, after⟩
  · intro past service' i r rest h
    exact lawful past _ rest h

/-- A failure on one instance and a response worth a retry on the next: the budgets allow no third
attempt. -/
theorem executeRetrying_accounts_exhausted :
    ∃ w, (Setup.sample .never).executeRetrying 2 (.counting 1 1) "users" .sample
        (.start (.sample [.error ⟨.reset, "closed"⟩, .ok { code := 503 }]) (.constant 0)) =
          some (.error (.budgetExhausted "users" 2 2 (.response ⟨{ code := 503 }, ""⟩)), w) ∧
      (Setup.sample .never).Accounts (.counting 1 1) "users" .sample
        (.sample [.error ⟨.reset, "closed"⟩, .ok { code := 503 }])
        (.error (.budgetExhausted "users" 2 2 (.response ⟨{ code := 503 }, ""⟩))) w.journal := by
  have run : ((Setup.sample .never).executeRetrying 2 (.counting 1 1) "users" .sample
      (.start (.sample [.error ⟨.reset, "closed"⟩, .ok { code := 503 }]) (.constant 0))).map
        (fun x => match x.1 with
          | .ok _ => none
          | .error e => some e) =
      some (some (.budgetExhausted "users" 2 2 (.response ⟨{ code := 503 }, ""⟩))) := by
    decide +kernel
  obtain ⟨⟨o, w⟩, run, ho⟩ := Option.map_eq_some_iff.mp run
  cases o with
  | ok r => cases ho
  | error e =>
      obtain rfl := Option.some.inj ho
      exact ⟨w, run, executeRetrying_accounts (fun _ => by decide) run⟩

end Setup

end Failover
