import Failover.Proofs.Call.Entries

/-!
# Calls — what follows a reply

From the reply to an attempt to the end of its turn the balancer is left alone.  `Reaction` lists
the ways in which this part of a turn can go, with what it enters: a usable response, a cancelled
transport, a failure that is not retried, budgets that are spent, a token that has fired, and a
retry.

* `weigh_reaction`: every turn goes one of these ways.
-/

namespace Failover

/-! ### Entries that leave the balancer alone -/

/-- The entries leave the balancer alone and tell of the given events. -/
structure Tells (es : List Entry) (events : List Event) : Prop where
  quiet : ∀ e ∈ es, e.isCall = false
  told : Journal.eventsIn es = events

namespace Tells

variable {as bs : List Entry} {xs ys : List Event}

theorem nil : Tells [] [] := ⟨fun _ h => (List.not_mem_nil h).elim, rfl⟩

/-- Entries one after the other tell their events one after the other. -/
theorem append (h : Tells as xs) (h' : Tells bs ys) : Tells (as ++ bs) (xs ++ ys) := by
  refine ⟨fun e he => ?_, ?_⟩
  · rcases List.mem_append.mp he with he | he
    · exact h.quiet e he
    · exact h'.quiet e he
  · rw [Journal.eventsIn_append, h.told, h'.told]

/-- Entries that are neither calls nor events tell of nothing. -/
theorem silent (h : ∀ e ∈ as, e.isCall = false ∧ Journal.eventOf? e = none) : Tells as [] := by
  refine ⟨fun e he => (h e he).1, ?_⟩
  rw [Journal.eventsIn, List.filterMap_eq_nil_iff]
  exact fun e he => (h e he).2

theorem asked {qs : List Question} : Tells (qs.map .asked) [] := by
  refine silent fun e he => ?_
  obtain ⟨q, -, rfl⟩ := List.mem_map.mp he
  exact ⟨rfl, rfl⟩

/-- A log line in front makes no difference. -/
theorem log {l : LogLine} (h : Tells as xs) : Tells (.logged l :: as) xs := by
  refine ⟨fun e he => ?_, h.told⟩
  rcases List.mem_cons.mp he with rfl | he
  · rfl
  · exact h.quiet e he

/-- A question in front makes no difference. -/
theorem ask {q : Question} (h : Tells as xs) : Tells (.asked q :: as) xs := by
  refine ⟨fun e he => ?_, h.told⟩
  rcases List.mem_cons.mp he with rfl | he
  · rfl
  · exact h.quiet e he

theorem pauses (h : ∀ e ∈ as, e.isPause = true) : Tells as [] := by
  refine silent fun e he => ?_
  have := h e he
  cases e <;> first | exact ⟨rfl, rfl⟩ | cases this

/-- Emitting an event tells just that. -/
theorem emission {σ : Type} {s : Setup σ} {e : Event} : Tells (s.emission e) [e] := by
  refine ⟨fun x hx => ?_, Setup.eventsIn_emission⟩
  rcases Setup.mem_emission hx with rfl | ⟨l, rfl⟩ <;> rfl

/-- Entries that leave the balancer alone make no choices. -/
theorem choices (h : Tells as xs) : (Journal.ofList as).choices = [] := by
  rw [Journal.choices, List.filterMap_eq_nil_iff]
  intro e he
  have quiet := h.quiet e he
  cases e <;> first | rfl | cases quiet

/-- Nor do they make attempts. -/
theorem attempts (h : Tells as xs) : (Journal.ofList as).attempts = [] := by
  rw [Journal.attempts, List.filterMap_eq_nil_iff]
  intro e he
  have quiet := h.quiet e he
  cases e <;> first | rfl | cases quiet

variable {σ : Type} {w : World σ}

theorem journal_choices (h : Tells as xs) : (w.addAll as).journal.choices = w.journal.choices := by
  rw [World.choices_addAll, h.choices, List.append_nil]

theorem journal_attempts (h : Tells as xs) :
    (w.addAll as).journal.attempts = w.journal.attempts := by
  rw [World.attempts_addAll, h.attempts, List.append_nil]

end Tells

/-! ### The question for the delay -/

/-- The entries before the policy is asked how long to wait. -/
def untilDelay (es : List Entry) : List Entry := es.takeWhile (!·.asksDelay)

/-- What was asked before the delay stands in front of its question. -/
theorem untilDelay_append_asked {as bs : List Entry} {c : Context} {d : Duration}
    (h : ∀ e ∈ as, e.asksDelay = false) : untilDelay (as ++ .asked (.delay c d) :: bs) = as := by
  rw [untilDelay, List.takeWhile_append_of_pos (by simpa using h)]
  simp [Entry.asksDelay]

theorem untilDelay_of_not {es : List Entry} (h : ∀ e ∈ es, e.asksDelay = false) :
    untilDelay es = es := by
  have : (es ++ []).takeWhile (!·.asksDelay) = es ++ List.takeWhile (!·.asksDelay) [] :=
    List.takeWhile_append_of_pos (by simpa using h)
  rwa [List.append_nil, List.takeWhile_nil, List.append_nil] at this

/-- What comes after the question makes no difference. -/
theorem untilDelay_append {as bs : List Entry} (h : ∃ e ∈ as, e.asksDelay = true) :
    untilDelay (as ++ bs) = untilDelay as := by
  induction as with
  | nil =>
      obtain ⟨e, he, -⟩ := h
      cases he
  | cons a as ih =>
      cases ha : a.asksDelay with
      | true => simp [untilDelay, ha]
      | false =>
          have h' : ∃ e ∈ as, e.asksDelay = true := by
            obtain ⟨e, he, hd⟩ := h
            rcases List.mem_cons.mp he with rfl | he
            · rw [ha] at hd
              cases hd
            · exact ⟨e, he, hd⟩
          simpa [untilDelay, ha] using ih h'

namespace Setup

variable {σ : Type}

/-! ### The ways of a turn -/

/-- The entries between a reply that is worth a retry and the turn's end, where the retry has been
scheduled: the token had not fired when the delay was asked for. -/
structure Scheduling (s : Setup σ) (p : Policy) (c : Context) (w : World σ) (i : Instance)
    (last : LastOutcome) (es : List Entry) : Prop where
  live : s.token.fired (w.addAll (untilDelay es)).journal = false
  delayed : ∃ e ∈ es, e.asksDelay = true
  tells : ∃ delay, Tells es [.attemptFailed c.service i.id c.attempts last.text,
    .retryScheduled c.service (decide (p.move c = .same)) delay]

/-- The ways in which a turn can go on from a reply, in the context `c` that counts the attempt.
`w` is the world in which the reply came. -/
inductive Reaction (s : Setup σ) (p : Policy) (c : Context) (w : World σ) (i : Instance)
    (reply : Except Failure Response) : Turn σ → Prop where
  | usable {r : Response} {es : List Entry} (verdict : p.verdict reply = .usable r)
      (tells : Tells es [.succeeded c.service c.attempts (w.addAll es).journal.elapsed]) :
      Reaction s p c w i reply (.over (.ok r) (w.addAll es))
  | cancelled {es : List Entry} (verdict : p.verdict reply = .cancelled) (tells : Tells es []) :
      Reaction s p c w i reply (.over (cancelledOutcome c) (w.addAll es))
  | fatal {f : Failure} {es : List Entry} (verdict : p.verdict reply = .fatal f)
      (tells : Tells es []) :
      Reaction s p c w i reply (.over (.error (.connectivity c.service f)) (w.addAll es))
  /-- There was never a second attempt to make. -/
  | single {last : LastOutcome} {es : List Entry} (verdict : p.verdict reply = .retryable last)
      (move : p.move c = .giveUp) (one : c.attempts = 1)
      (tells : Tells es [.attemptFailed c.service i.id c.attempts last.text]) :
      Reaction s p c w i reply (.over (last.asOutcome c.service) (w.addAll es))
  | spent {last : LastOutcome} {es : List Entry} (verdict : p.verdict reply = .retryable last)
      (move : p.move c = .giveUp) (more : c.attempts ≠ 1)
      (tells : Tells es [.attemptFailed c.service i.id c.attempts last.text,
        .exhausted c.service c.attempts c.distinct (w.addAll es).journal.elapsed]) :
      Reaction s p c w i reply
        (.over (.error (.budgetExhausted c.service c.attempts c.distinct last)) (w.addAll es))
  /-- The token had fired when the retry was granted. -/
  | interrupted {last : LastOutcome} {es : List Entry}
      (verdict : p.verdict reply = .retryable last) (move : p.move c ≠ .giveUp)
      (fired : s.token.fired (w.addAll es).journal = true)
      (undelayed : ∀ e ∈ es, e.asksDelay = false)
      (tells : Tells es [.attemptFailed c.service i.id c.attempts last.text]) :
      Reaction s p c w i reply (.over (cancelledOutcome c) (w.addAll es))
  /-- The token fired while the retry was waited for. -/
  | cut {last : LastOutcome} {words : Words} {es : List Entry}
      (verdict : p.verdict reply = .retryable last) (move : p.move c ≠ .giveUp)
      (fires : s.token.Fires) (scheduling : s.Scheduling p c w i last es) :
      Reaction s p c w i reply
        (.over (cancelledOutcome c) (({ w with words := words } : World σ).addAll es))
  | again {last : LastOutcome} {words : Words} {es : List Entry}
      (verdict : p.verdict reply = .retryable last) (move : p.move c ≠ .giveUp)
      (scheduling : s.Scheduling p c w i last es) :
      Reaction s p c w i reply
        (.again (c.after (p.move c)) (({ w with words := words } : World σ).addAll es))

variable {s : Setup σ} {p : Policy} {c : Context} {w : World σ} {i : Instance}
  {reply : Except Failure Response} {last : LastOutcome}

/-! ### What is entered on the way -/

theorem verdictQuestions_asksDelay {e : Entry}
    (h : e ∈ (p.verdictQuestions reply).map Entry.asked) : e.asksDelay = false := by
  obtain ⟨q, hq, rfl⟩ := List.mem_map.mp h
  cases reply with
  | ok r =>
      obtain rfl := List.mem_singleton.mp hq
      rfl
  | error f =>
      rw [Policy.verdictQuestions] at hq
      split at hq
      · cases hq
      · obtain rfl := List.mem_singleton.mp hq
        rfl

theorem moveQuestions_asksDelay {e : Entry} (h : e ∈ (p.moveQuestions c).map Entry.asked) :
    e.asksDelay = false := by
  obtain ⟨q, hq, rfl⟩ := List.mem_map.mp h
  rw [Policy.moveQuestions] at hq
  split at hq
  · obtain rfl := List.mem_singleton.mp hq
    rfl
  · rcases List.mem_cons.mp hq with rfl | hq
    · rfl
    · obtain rfl := List.mem_singleton.mp hq
      rfl

/-- The delay is asked for only after all that a failed attempt enters. -/
theorem failedEntries_asksDelay :
    ∀ e ∈ s.failedEntries p c i reply last, e.asksDelay = false := by
  intro e he
  simp only [failedEntries, List.mem_append, List.mem_cons] at he
  rcases he with he | rfl | he | he
  · exact verdictQuestions_asksDelay he
  · rfl
  · rcases mem_emission he with rfl | ⟨l, rfl⟩ <;> rfl
  · exact moveQuestions_asksDelay he

/-- No time passes in what an emission enters. -/
theorem emission_isPause {e : Event} : ∀ x ∈ s.emission e, x.isPause = false := by
  intro x hx
  rcases mem_emission hx with rfl | ⟨l, rfl⟩ <;> rfl

theorem failedEntries_isPause : ∀ e ∈ s.failedEntries p c i reply last, e.isPause = false := by
  intro e he
  simp only [failedEntries, List.mem_append, List.mem_cons, List.mem_map] at he
  rcases he with ⟨q, -, rfl⟩ | rfl | he | ⟨q, -, rfl⟩
  · rfl
  · rfl
  · exact emission_isPause e he
  · rfl

theorem tells_selected :
    Tells (.logged (selectedLine (c.bind i) i) ::
        s.emission (.instanceSelected c.service i.id (c.bind i).distinct))
      [.instanceSelected c.service i.id (c.bind i).distinct] :=
  Tells.emission.log

theorem selectedEntries_choices :
    (Journal.ofList (s.selectedEntries c i)).choices = [some i] := by
  rw [selectedEntries, ← List.singleton_append, Journal.choices_of_append Journal.toList_ofList,
    tells_selected.choices]
  rfl

theorem selectedEntries_attempts : (Journal.ofList (s.selectedEntries c i)).attempts = [] := by
  rw [selectedEntries, ← List.singleton_append, Journal.attempts_of_append Journal.toList_ofList,
    tells_selected.attempts]
  rfl

theorem tells_failedEntries : Tells (s.failedEntries p c i reply last)
    [.attemptFailed c.service i.id c.attempts last.text] :=
  Tells.asked.append (Tells.emission.append Tells.asked).log

theorem tells_scheduledEntries {same : Bool} {d : Duration} :
    Tells (s.scheduledEntries same c d) [.retryScheduled c.service same d] :=
  Tells.emission.ask

/-- What a scheduled retry adds to a failed attempt. -/
theorem scheduled_failedEntries {same : Bool} {c' : Context} :
    s.scheduled p same c' (w.addAll (s.failedEntries p c i reply last)) =
      ({ w with words := (p.delay c' w.words).2 } : World σ).addAll
        (s.failedEntries p c i reply last ++
          s.scheduledEntries same c' (p.delay c' w.words).1) := by
  rw [← World.addAll_addAll]
  rfl

theorem cancelledOutcome_after {m : Move} :
    cancelledOutcome (c.after m) = cancelledOutcome c := by
  cases m <;> rfl

theorem elapsed_emission {e : Event} :
    (w.addAll (s.emission e)).journal.elapsed = w.journal.elapsed :=
  Journal.elapsed_addAll emission_isPause

/-- However long the wait: the token had not fired when the delay was asked for, and nothing is
told after the schedule. -/
theorem scheduling {d : Duration} {es : List Entry}
    (hf : s.cancelled (w.addAll (s.failedEntries p c i reply last)) = false)
    (he : ∀ e ∈ es, e.isPause = true) :
    s.Scheduling p c w i last (s.failedEntries p c i reply last ++
      s.scheduledEntries (decide (p.move c = .same)) (c.after (p.move c)) d ++ es) where
  live := by
    rw [List.append_assoc, scheduledEntries, List.cons_append,
      untilDelay_append_asked failedEntries_asksDelay]
    exact hf
  delayed := ⟨.asked (.delay (c.after (p.move c)) d), by simp [scheduledEntries], rfl⟩
  tells := by
    have hs : (c.after (p.move c)).service = c.service := Context.service_after
    have h : Tells (s.scheduledEntries (decide (p.move c = .same)) (c.after (p.move c)) d)
        [.retryScheduled c.service (decide (p.move c = .same)) d] :=
      hs ▸ tells_scheduledEntries
    exact ⟨d, (tells_failedEntries.append h).append (.pauses he)⟩

/-! ### Every turn -/

/-- A retry that is granted ends with its pause, or leads to the next turn. -/
theorem granted_reaction (verdict : p.verdict reply = .retryable last)
    (move : p.move c ≠ .giveUp) :
    s.Reaction p c w i reply
      (s.pause p (decide (p.move c = .same)) (c.after (p.move c))
        (w.addAll (s.failedEntries p c i reply last))) := by
  cases hf : s.cancelled (w.addAll (s.failedEntries p c i reply last)) with
  | true =>
      rw [pause_of_fired hf, cancelledOutcome_after]
      exact .interrupted verdict move hf failedEntries_asksDelay tells_failedEntries
  | false =>
      rw [pause_of_live hf, cancelledOutcome_after, scheduled_failedEntries, World.words_addAll]
      generalize p.delay (c.after (p.move c)) w.words = delayed
      obtain ⟨d, words⟩ := delayed
      dsimp only
      split
      · have h := scheduling (d := d) hf (fun e he => (List.not_mem_nil he).elim)
        rw [List.append_nil] at h
        exact .again verdict move h
      · generalize hw : ({ w with words := words } : World σ).addAll _ = w₁
        obtain ⟨es, he, hs, fires⟩ := s.sleep_pauses (w := w₁) (d := d)
        rw [← hw, World.addAll_addAll] at hs
        rcases h : s.sleep w₁ d with ⟨_ | _, w'⟩
        · rw [hw, h] at hs
          obtain rfl := hs
          exact .again verdict move (scheduling hf he)
        · rw [hw, h] at hs
          obtain rfl := hs
          exact .cut verdict move (fires (by rw [h])) (scheduling hf he)

/-- Weighing a reply is one of these reactions. -/
theorem weigh_reaction : s.Reaction p c w i reply (s.weigh p c w i reply) := by
  cases hv : p.verdict reply with
  | usable r =>
      rw [weigh_usable hv]
      have ht : (w.ask (p.verdictQuestions reply)).journal.elapsed = (w.addAll
          ((p.verdictQuestions reply).map .asked ++ s.emission (.succeeded c.service c.attempts
            (w.ask (p.verdictQuestions reply)).journal.elapsed))).journal.elapsed := by
        rw [← World.addAll_addAll, elapsed_emission]
        rfl
      exact .usable hv (ht ▸ Tells.asked.append .emission)
  | cancelled =>
      rw [weigh_cancelled hv]
      exact .cancelled hv .asked
  | fatal f =>
      rw [weigh_fatal hv]
      exact .fatal hv (Tells.asked.append Tells.nil.log)
  | retryable last =>
      by_cases hm : p.move c = .giveUp
      · rw [weigh_retryable hv, hm]
        dsimp only
        by_cases one : c.attempts = 1
        · rw [giveUp_first one]
          exact .single hv hm one tells_failedEntries
        · rw [giveUp_later one, World.addAll_addAll]
          generalize ht : Journal.elapsed _ = t
          refine .spent hv hm one ?_
          rw [← World.addAll_addAll, ← World.log_addAll, elapsed_emission, ht]
          exact tells_failedEntries.append Tells.emission.log
      · rw [weigh_granted hv hm]
        exact granted_reaction hv hm

end Setup

end Failover
