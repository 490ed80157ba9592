import Failover.Proofs.Call.Calm
import Failover.Proofs.Call.Once
import Failover.Proofs.Call.Turn

/-!
# Calls — cut short by their token

A token only ever takes something away from a call.  A call whose token fires is compared with the
same call under a token that never does (`undisturbed`): the two run in lockstep, entry by entry,
until the token fires and the call comes to look at it.

* `pause_paused`: only a pause can come out differently in the two runs.
* `turn_versus`: two turns from where the token has not fired.
* `executeRetrying_truncates`: two whole calls.
-/

namespace Failover.Setup

variable {σ : Type} {s : Setup σ} {past es : List Entry} {w : World σ}

/-! ### The same call undisturbed -/

/-- The setup with a token that never fires. -/
def undisturbed (s : Setup σ) : Setup σ := { s with token := Trigger.never.cancellation s.sink }

variable {p : Policy} {service : String} {raw : Request} {c : Context} {i : Instance}
  {reply : Except Failure Response} {last : LastOutcome} {d : Duration} {same : Bool}

/-- A selection before the token fires is the undisturbed one. -/
theorem select_undisturbed (h : s.cancelled w = false) :
    s.undisturbed.select c w = s.select c w := by
  have h₀ : s.undisturbed.cancelled w = false := rfl
  rw [select, select, h, h₀]
  rfl

/-- A call that is made once does not look at its token. -/
theorem bypass_undisturbed : s.undisturbed.bypass p service raw w = s.bypass p service raw w := rfl

/-- Only a retry that is granted can come out differently. -/
theorem weigh_undisturbed (h : ∀ last, p.verdict reply = .retryable last → p.move c = .giveUp) :
    s.undisturbed.weigh p c w i reply = s.weigh p c w i reply := by
  cases hv : p.verdict reply with
  | usable r => rw [weigh_usable hv, weigh_usable hv]; rfl
  | cancelled => rw [weigh_cancelled hv, weigh_cancelled hv]
  | fatal f => rw [weigh_fatal hv, weigh_fatal hv]
  | retryable last =>
      rw [weigh_retryable hv, weigh_retryable hv, h last hv]
      rfl

/-- What an undisturbed wait enters, if there is one. -/
def rests (s : Setup σ) (d : Duration) : List Entry :=
  if d.nanos = 0 then []
  else
    match s.sleeper with
    | .recording => [.slept d]
    | .timer => [.slept d, .waited d]

theorem rests_of_recording (h : d.nanos ≠ 0) (hs : s.sleeper = .recording) :
    s.rests d = [.slept d] := by
  rw [rests, if_neg h, hs]

theorem rests_of_timer (h : d.nanos ≠ 0) (hs : s.sleeper = .timer) :
    s.rests d = [.slept d, .waited d] := by
  rw [rests, if_neg h, hs]

theorem rests_isPause : ∀ e ∈ s.rests d, e.isPause = true := by
  unfold rests
  split
  · simp
  · cases s.sleeper <;> simp [Entry.isPause]

/-- Undisturbed, a wait is never cut. -/
theorem sleep_undisturbed (h : d.nanos ≠ 0) :
    s.undisturbed.sleep w d = (false, w.addAll (s.rests d)) := by
  cases hs : s.sleeper with
  | recording =>
      rw [rests_of_recording h hs]
      exact sleep_of_recording rfl hs
  | timer =>
      rw [rests_of_timer h hs]
      exact sleep_of_silent rfl hs rfl

/-- An undisturbed pause leads to the next turn. -/
theorem pause_undisturbed :
    s.undisturbed.pause p same c w =
      .again c ((s.scheduled p same c w).addAll (s.rests (p.delay c w.words).1)) := by
  rw [pause_of_live rfl]
  split
  · rename_i h
    rw [rests, if_pos h]
    rfl
  · rename_i h
    rw [sleep_undisturbed h]
    rfl

/-! ### Pauses -/

/-- How a pause and the same pause undisturbed compare: both are over without the token having
fired, or the token cuts the one short while the other goes on. -/
inductive Paused (s : Setup σ) (c : Context) (w : World σ) : Turn σ → Turn σ → Prop where
  | through {w' : World σ} {es : List Entry} {x : Event}
      (journal : w'.journal.toList = w.journal.toList ++ es) (tells : Tells es [x])
      (calm : s.Calm w'.journal.toList) : Paused s c w (.again c w') (.again c w')
  | cut {w' w₀ : World σ} {es es₀ : List Entry} {xs : List Event} {x : Event}
      (journal : w'.journal.toList = w.journal.toList ++ es)
      (journal₀ : w₀.journal.toList = w.journal.toList ++ es₀)
      (tells : Tells es xs) (tells₀ : Tells es₀ [x]) (begins : xs <+: [x])
      (schedule : x.kind = .retryScheduled) (disturbed : ¬ s.Calm w'.journal.toList) :
      Paused s c w (.over (cancelledOutcome c) w') (.again c w₀)

/-- Scheduling a retry is no moment of a trigger. -/
theorem scheduledEntries_still : ∀ e ∈ s.scheduledEntries same c d, e.isMoment = false := by
  simp [scheduledEntries, emission, Entry.isMoment]

theorem toList_scheduled {es : List Entry} :
    ((s.scheduled p same c w).addAll es).journal.toList =
      w.journal.toList ++ (s.scheduledEntries same c (p.delay c w.words).1 ++ es) := by
  rw [World.toList_addAll, scheduled, World.toList_addAll, List.append_assoc]

/-- What a pause enters is told as the schedule. -/
theorem tells_scheduled {es : List Entry} (h : ∀ e ∈ es, e.isPause = true) :
    Tells (s.scheduledEntries same c d ++ es) [.retryScheduled c.service same d] :=
  tells_scheduledEntries.append (.pauses h)

/-- A wait that the token cuts short. -/
theorem Paused.scheduled_cut (hp : ∀ e ∈ es, e.isPause = true)
    (disturbed : ¬ s.Calm ((s.scheduled p same c w).addAll es).journal.toList) :
    s.Paused c w (.over (cancelledOutcome c) ((s.scheduled p same c w).addAll es))
      (.again c ((s.scheduled p same c w).addAll (s.rests (p.delay c w.words).1))) :=
  .cut toList_scheduled toList_scheduled (tells_scheduled hp) (tells_scheduled rests_isPause)
    (List.prefix_refl _) rfl disturbed

/-- A wait in which the token does not fire. -/
theorem Paused.scheduled_through (hp : ∀ e ∈ es, e.isPause = true)
    (calm : s.Calm ((s.scheduled p same c w).addAll es).journal.toList) :
    s.Paused c w (.again c ((s.scheduled p same c w).addAll es))
      (.again c ((s.scheduled p same c w).addAll es)) :=
  .through toList_scheduled (tells_scheduled hp) calm

/-- The wait after a schedule. -/
theorem sleep_paused (timely : s.token.Timely)
    (calm : s.Calm (s.scheduled p same c w).journal.toList) (hd : (p.delay c w.words).1 = d)
    (positive : d.nanos ≠ 0) :
    s.Paused c w
      (match s.sleep (s.scheduled p same c w) d with
        | (true, w) => .over (cancelledOutcome c) w
        | (false, w) => .again c w)
      (.again c ((s.scheduled p same c w).addAll (s.rests d))) := by
  have hslept : ((s.scheduled p same c w).addAll [.slept d]).journal =
      .ofList ((s.scheduled p same c w).journal.toList ++ [.slept d]) :=
    Journal.toList_injective World.toList_addAll
  cases hf : s.cancelled ((s.scheduled p same c w).addAll [.slept d]) with
  | true =>
      rw [sleep_of_fired hf, ← hd]
      refine .scheduled_cut (by simp [Entry.isPause]) fun calm => ?_
      rw [hd] at calm
      exact Bool.false_ne_true (calm.live.symm.trans hf)
  | false =>
      have live := hf
      rw [cancelled, hslept] at live
      cases hs : s.sleeper with
      | recording =>
          rw [sleep_of_recording hf hs, rests_of_recording positive hs]
          refine .scheduled_through (by simp [Entry.isPause]) ?_
          rw [World.toList_addAll]
          exact calm.slept live fun h => by cases hs.symm.trans h
      | timer =>
          -- The clock runs: the moment may come before the wait is over.
          cases during : s.token.during ((s.scheduled p same c w).addAll [.slept d]).journal d with
          | some time =>
              rw [sleep_of_during hf hs during, ← hd]
              refine .scheduled_cut (by simp [Entry.isPause]) fun calm => ?_
              rw [hd] at calm
              refine calm ((s.scheduled p same c w).journal.toList ++ [.slept d]) [.waited time] ?_
                (.inr ⟨hs, _, d, time, rfl, hslept ▸ during⟩)
              rw [World.toList_addAll, List.append_assoc]
              rfl
          | none =>
              rw [sleep_of_silent hf hs during, rests_of_timer positive hs]
              refine .scheduled_through (by simp [Entry.isPause]) ?_
              rw [hslept] at during
              have := (calm.slept live fun _ => during).waited timely during
              rwa [List.append_assoc, List.singleton_append, ← World.toList_addAll] at this

/-- **Only the token tells two pauses apart**, and where it cuts the one short, the other has at
least been scheduled. -/
theorem pause_paused (timely : s.token.Timely)
    (calm : s.cancelled w = false → s.Calm w.journal.toList) :
    s.Paused c w (s.pause p same c w) (s.undisturbed.pause p same c w) := by
  rw [pause_undisturbed]
  cases hf : s.cancelled w with
  | true =>
      rw [pause_of_fired hf]
      refine .cut (List.append_nil _).symm toList_scheduled .nil (tells_scheduled rests_isPause)
        ⟨_, List.nil_append _⟩ rfl fun calm => ?_
      exact Bool.false_ne_true (calm.live.symm.trans hf)
  | false =>
      rw [pause_of_live hf]
      have calm' : s.Calm (s.scheduled p same c w).journal.toList := by
        rw [scheduled, World.toList_addAll]
        exact (calm hf).append_still timely scheduledEntries_still
      split
      · rename_i h
        rw [rests, if_pos h]
        have journal : (s.scheduled p same c w).journal.toList =
            w.journal.toList ++ s.scheduledEntries same c (p.delay c w.words).1 :=
          World.toList_addAll
        exact .through journal tells_scheduledEntries calm'
      · rename_i h
        exact sleep_paused timely calm' rfl h

/-! ### Turns -/

/-- Before a turn the token has not fired, and the attempts that were counted are those made. -/
structure Poised (s : Setup σ) (service : String) (c : Context) (w : World σ) : Prop where
  calm : s.Calm w.journal.toList
  service_eq : c.service = service
  counted : c.attempts = w.journal.attempts.length

/-- How a turn and the same turn undisturbed compare. -/
inductive Versus (s : Setup σ) (service : String) : Turn σ → Turn σ → Prop where
  /-- Both lead to the next turn, before which the token has not fired. -/
  | onward {c : Context} {w : World σ} (poised : s.Poised service c w) :
      Versus s service (.again c w) (.again c w)
  /-- Both end the call, with the attempt in which the token fired if it has. -/
  | ended {o : Outcome} {w : World σ} (stops : s.Stops w.journal.toList)
      (last : s.Calm w.journal.toList ∨ w.journal.EndsWith w.journal.attempts.length) :
      Versus s service (.over o w) (.over o w)
  /-- The token ends the call, which would have gone on. -/
  | cut {c : Context} {w w₀ : World σ} (disturbed : ¬ s.Calm w.journal.toList)
      (stops : s.Stops w.journal.toList) (begins : w.journal.Begins w₀.journal)
      (onward : w₀.journal.GoesOnAfter w.journal.attempts.length) :
      Versus s service (.over (.error (.cancelled service w.journal.attempts.length)) w)
        (.again c w₀)

variable {r : Request}

/-- A call that does not go on after an attempt ends with it. -/
theorem ends_with_attempt {j : Journal} (calm : s.Calm past)
    (hj : j.toList = past ++ .attempted service i r :: es) (ends : ∀ e ∈ es, e.goesOn = false) :
    s.Stops j.toList ∧ j.EndsWith j.attempts.length := by
  have quiet : ∀ e ∈ es, e.isCall = false := fun e he => Entry.isCall_of_not_goesOn (ends e he)
  have tells : Tells es (Journal.eventsIn es) := ⟨quiet, rfl⟩
  have attempts : j.attempts = (Journal.ofList past).attempts ++ [(service, i, r)] := by
    rw [← List.singleton_append] at hj
    rw [Journal.attempts_of_append hj, Journal.attempts_of_append Journal.toList_ofList,
      tells.attempts]
    rfl
  refine ⟨?_, past, service, i, r, es, hj, ?_, ends⟩
  · rw [hj]
    exact calm.stops_append quiet
  · rw [attempts, List.length_append]
    rfl

/-- Without a retry the reply ends the call. -/
theorem weigh_last (h : ∀ last, p.verdict reply = .retryable last → p.move c = .giveUp) :
    ∃ o es, s.weigh p c w i reply = .over o (w.addAll es) ∧ ∀ e ∈ es, e.goesOn = false := by
  have reaction : s.Reaction p c w i reply (s.weigh p c w i reply) := weigh_reaction
  generalize s.weigh p c w i reply = t at *
  cases reaction with
  | usable verdict tells => exact ⟨_, _, rfl, tells.goesOn (by simp [Event.kind])⟩
  | cancelled verdict tells => exact ⟨_, _, rfl, tells.goesOn (by simp)⟩
  | fatal verdict tells => exact ⟨_, _, rfl, tells.goesOn (by simp)⟩
  | single verdict move one tells => exact ⟨_, _, rfl, tells.goesOn (by simp [Event.kind])⟩
  | spent verdict move more tells => exact ⟨_, _, rfl, tells.goesOn (by simp [Event.kind])⟩
  | interrupted verdict move fired undelayed tells => exact absurd (h _ verdict) move
  | cut verdict move fires scheduling => exact absurd (h _ verdict) move
  | again verdict move scheduling => exact absurd (h _ verdict) move

/-- What a pause after an attempt comes to in the two runs. -/
theorem Paused.versus {t t₀ : Turn σ} (h : s.Paused c w t t₀) (calm : s.Calm past)
    (hw : w.journal.toList = past ++ .attempted service i r :: es)
    (quiet : ∀ e ∈ es, e.isCall = false) (service_eq : c.service = service)
    (counted : c.attempts = w.journal.attempts.length) : s.Versus service t t₀ := by
  have attempts {j : Journal} {later : List Entry} {xs : List Event} (tells : Tells later xs)
      (hj : j.toList = w.journal.toList ++ later) : j.attempts.length = c.attempts := by
    rw [Journal.attempts_of_append hj, tells.attempts, List.append_nil]
    exact counted.symm
  cases h with
  | through journal tells calm' => exact .onward ⟨calm', service_eq, (attempts tells journal).symm⟩
  | @cut w' w₀ later later₀ xs x journal journal₀ tells tells₀ begins schedule disturbed =>
      have outcome : cancelledOutcome c =
          .error (.cancelled service w'.journal.attempts.length) := by
        rw [cancelledOutcome, service_eq, attempts tells journal]
      rw [outcome]
      refine .cut disturbed ?_ (.of_tells journal journal₀ tells tells₀ begins) ?_
      · rw [journal, hw, List.append_assoc, List.cons_append]
        refine calm.stops_append fun e he => ?_
        rcases List.mem_append.mp he with he | he
        · exact quiet e he
        · exact tells.quiet e he
      -- The schedule is what the undisturbed run does after the attempt and the other does not.
      · obtain ⟨pre, e, post, rfl, goes⟩ := tells₀.goesOn_exists schedule
        have quiet : Tells pre (Journal.eventsIn pre) :=
          ⟨fun x hx => tells₀.quiet x (List.mem_append_left _ hx), rfl⟩
        refine ⟨w.journal.toList ++ pre, e, post, ?_, ?_, goes⟩
        · rw [journal₀, List.append_assoc]
        · rw [attempts quiet rfl, attempts tells journal]

/-- What follows an attempt whose outcome is retried. -/
theorem granted_versus (timely : s.token.Timely) (calm : s.Calm past)
    (hw : w.journal.toList = past ++ [.attempted service i r]) (service_eq : c.service = service)
    (counted : c.attempts = w.journal.attempts.length)
    (verdict : p.verdict reply = .retryable last) (move : p.move c ≠ .giveUp) :
    s.Versus service (s.weigh p c w i reply) (s.undisturbed.weigh p c w i reply) := by
  rw [weigh_granted verdict move, weigh_granted verdict move]
  have hw₁ : (w.addAll (s.failedEntries p c i reply last)).journal.toList =
      past ++ .attempted service i r :: s.failedEntries p c i reply last := by
    rw [World.toList_addAll, hw, List.append_assoc, List.singleton_append]
  -- The token may have fired in the attempt; if it has not, it has fired nowhere before.
  have calm₁ : s.cancelled (w.addAll (s.failedEntries p c i reply last)) = false →
      s.Calm (w.addAll (s.failedEntries p c i reply last)).journal.toList := by
    intro live
    have live' : s.token.fired
        (.ofList (w.addAll (s.failedEntries p c i reply last)).journal.toList) = false := live
    rw [hw₁] at live' ⊢
    refine calm.append timely live' ?_
    intro e he
    rcases List.mem_cons.mp he with rfl | he
    · rfl
    · exact failedEntries_isPause e he
  have service_after : (c.after (p.move c)).service = service :=
    Context.service_after.trans service_eq
  have counted_after : (c.after (p.move c)).attempts =
      (w.addAll (s.failedEntries p c i reply last)).journal.attempts.length := by
    rw [tells_failedEntries.journal_attempts, ← counted, Context.attempts_after]
  exact (pause_paused timely calm₁).versus calm hw₁ tells_failedEntries.quiet service_after
    counted_after

/-- An attempt from where the token has not fired. -/
theorem attempt_versus (timely : s.token.Timely) (poised : s.Poised service c w) :
    s.Versus service (s.attempt p raw i c w) (s.undisturbed.attempt p raw i c w) := by
  obtain ⟨calm, service_eq, counted⟩ := poised
  cases hb : s.pipeline.bind raw i (c.attempts + 1) with
  | error f =>
      rw [attempt_of_error hb, attempt_of_error (s := s.undisturbed) hb]
      have calm' : s.Calm
          (w.addAll [.logged (bindFailureLine i (c.attempts + 1) f)]).journal.toList := by
        rw [World.toList_addAll]
        exact calm.append_still timely (by simp [Entry.isMoment])
      exact .ended calm'.stops (.inl calm')
  | ok r =>
      rcases ha : s.balancer.executeOn c.service i r w.balancer with ⟨reply, b⟩
      rw [attempt_of_ok hb ha, attempt_of_ok (s := s.undisturbed) hb ha]
      generalize hw : ({ w with balancer := b } : World σ).addAll [.attempted c.service i r] = w₁
      have hj : w₁.journal.toList = w.journal.toList ++ [.attempted service i r] := by
        rw [← hw, World.toList_addAll, service_eq]
      by_cases granted : ∃ last, p.verdict reply = .retryable last ∧
          p.move c.recordAttempt ≠ .giveUp
      · obtain ⟨last, verdict, move⟩ := granted
        refine granted_versus timely calm hj service_eq ?_ verdict move
        rw [Journal.attempts_of_append hj, List.length_append]
        exact congrArg (· + 1) counted
      · have last : ∀ last, p.verdict reply = .retryable last →
            p.move c.recordAttempt = .giveUp := by
          intro last verdict
          by_cases move : p.move c.recordAttempt = .giveUp
          · exact move
          · exact absurd ⟨last, verdict, move⟩ granted
        rw [weigh_undisturbed last]
        obtain ⟨o, es, hw', ends⟩ := weigh_last (s := s) (w := w₁) (i := i) last
        rw [hw']
        have hj' : (w₁.addAll es).journal.toList =
            w.journal.toList ++ .attempted service i r :: es := by
          rw [World.toList_addAll, hj, List.append_assoc, List.singleton_append]
        obtain ⟨stops, endsWith⟩ := ends_with_attempt calm hj' ends
        exact .ended stops (.inr endsWith)

/-- **Two turns from where the token has not fired** differ only if the token cuts the one short. -/
theorem turn_versus (timely : s.token.Timely) (poised : s.Poised service c w) :
    s.Versus service (s.turn p raw c w) (s.undisturbed.turn p raw c w) := by
  have live : s.cancelled w = false := poised.calm.live
  rw [turn, turn, select_undisturbed live]
  cases hc : c.bound with
  | some i =>
      rw [select_of_bound hc]
      exact attempt_versus timely poised
  | none =>
      rcases hb : s.balancer.choose c.service w.balancer with ⟨_ | i, b⟩
      · rw [select_of_none hc live hb]
        have calm : s.Calm (({ w with balancer := b } : World σ).addAll
            [.chose c.service none, .logged (noInstanceLine c)]).journal.toList := by
          rw [World.toList_addAll]
          exact poised.calm.append_still timely (by simp [Entry.isMoment])
        exact .ended calm.stops (.inl calm)
      · rw [select_of_some hc live hb]
        refine attempt_versus timely ⟨?_, poised.service_eq, ?_⟩
        · rw [World.toList_addAll]
          exact poised.calm.append_still timely
            (by simp [selectedEntries, emission, Entry.isMoment])
        · rw [World.attempts_addAll, selectedEntries_attempts, List.append_nil]
          exact poised.counted

/-! ### Whole calls -/

/-- How a call that comes to `o` in the world `w` compares with the same call undisturbed, that
comes to `o₀` in the world `w₀`. -/
structure Truncates (s : Setup σ) (service : String) (o : Outcome) (w : World σ) (o₀ : Outcome)
    (w₀ : World σ) : Prop where
  begins : w.journal.Begins w₀.journal
  stops : s.Stops w.journal.toList
  /-- The token fired nowhere in the call. -/
  calm : s.Calm w.journal.toList → o = o₀ ∧ w = w₀
  /-- The undisturbed call ends with the attempt in which the token fired. -/
  last : w₀.journal.EndsWith w.journal.attempts.length → o = o₀ ∧ w = w₀
  /-- The undisturbed call goes on after the attempt in which or after which the token fired. -/
  cut : ¬ s.Calm w.journal.toList → ¬ w₀.journal.EndsWith w.journal.attempts.length →
    o = .error (.cancelled service w.journal.attempts.length)

variable {o o₀ : Outcome} {w₀ : World σ} {limit : Nat}

/-- A call that comes out as it would undisturbed. -/
theorem Truncates.of_same (stops : s.Stops w.journal.toList)
    (last : s.Calm w.journal.toList ∨ w.journal.EndsWith w.journal.attempts.length) :
    s.Truncates service o w o w where
  begins := .of_extends (List.prefix_refl _)
  stops := stops
  calm _ := ⟨rfl, rfl⟩
  last _ := ⟨rfl, rfl⟩
  cut disturbed unended := by
    rcases last with calm | ends
    · exact absurd calm disturbed
    · exact absurd ends unended

/-- **A run from where the token has not fired** is truncated by it. -/
theorem turns_truncates (timely : s.token.Timely) (poised : s.Poised service c w)
    (run₀ : s.undisturbed.turns p raw limit c w = some (o₀, w₀)) :
    ∃ o w', s.turns p raw limit c w = some (o, w') ∧ s.Truncates service o w' o₀ w₀ := by
  induction limit generalizing c w with
  | zero => cases run₀
  | succ limit ih =>
      rw [turns] at run₀ ⊢
      have versus : s.Versus service (s.turn p raw c w) (s.undisturbed.turn p raw c w) :=
        turn_versus timely poised
      generalize s.turn p raw c w = t, s.undisturbed.turn p raw c w = t₀ at versus run₀ ⊢
      -- The runs are in lockstep up to the first turn that differs, which ends the one of them.
      cases versus with
      | onward poised => exact ih poised run₀
      | ended stops last =>
          cases run₀
          exact ⟨_, _, rfl, .of_same stops last⟩
      | @cut c' w' w₁ disturbed stops begins onward =>
          have extends₀ : w₁.journal.toList <+: w₀.journal.toList := turns_extends run₀
          have unended : ¬ w₀.journal.EndsWith w'.journal.attempts.length := fun ends =>
            ends.not_goesOnAfter (onward.extend extends₀)
          refine ⟨_, w', rfl, begins.trans (.of_extends extends₀), stops, ?_, ?_, ?_⟩
          · intro calm
            exact absurd calm disturbed
          · intro ends
            exact absurd ends unended
          · intro _ _
            rfl

/-- A call that is made once ends with its attempt, if it makes one. -/
theorem bypass_truncates (timely : s.token.Timely) (calm : s.Calm w.journal.toList) {w' : World σ}
    (h : s.bypass p service raw w = (o, w')) : s.Truncates service o w' o w' := by
  obtain ⟨pre, tail, hj, notes, once⟩ := bypass_once h
  have calm₁ : s.Calm (w.journal.toList ++ (pre ++ [.combined service])) := by
    refine calm.append_still timely ?_
    intro e he
    rcases List.mem_append.mp he with he | he
    · exact Entry.isMoment_of_isNote (notes e he)
    · obtain rfl := List.mem_singleton.mp he
      rfl
  have hj₁ : w'.journal.toList = w.journal.toList ++ (pre ++ [.combined service]) ++ tail := by
    rw [hj]
    simp only [List.append_assoc, List.singleton_append]
  have still (hm : ∀ e ∈ tail, e.isMoment = false) : s.Truncates service o w' o w' := by
    have calm' : s.Calm w'.journal.toList := hj₁ ▸ calm₁.append_still timely hm
    exact .of_same calm'.stops (.inl calm')
  cases once with
  | own => exact still (by simp)
  | empty => exact still (by simp [Entry.isMoment])
  | unaddressable bind => exact still (by simp [Entry.isMoment])
  | @attempted i r o bind =>
      have calm₂ : s.Calm (w.journal.toList ++ (pre ++ [.combined service]) ++
          [.chose service (some i)]) :=
        calm₁.append_still timely (by simp [Entry.isMoment])
      have hj₂ : w'.journal.toList = w.journal.toList ++ (pre ++ [.combined service]) ++
          [.chose service (some i)] ++ .attempted service i r :: [] := by
        rw [hj₁]
        simp only [List.append_assoc, List.cons_append, List.nil_append]
      obtain ⟨stops, ends⟩ := ends_with_attempt calm₂ hj₂ fun e he => by cases he
      exact .of_same stops (.inr ends)

/-- **Cancellation only truncates.**  Whenever its token fires, a call makes the same choices and
attempts and tells of the same events as it would undisturbed, up to where it stops; it stops once
the token has fired; and it comes to the same end, or it is cancelled with the attempts made. -/
theorem executeRetrying_truncates {words : Words} {b : σ} (timely : s.token.Timely)
    (run₀ : s.undisturbed.executeRetrying limit p service raw (.start b words) = some (o₀, w₀)) :
    ∃ o w, s.executeRetrying limit p service raw (.start b words) = some (o, w) ∧
      s.Truncates service o w o₀ w₀ ∧
      (s.token.fired .empty = true → o = .error (.cancelled service 0) ∧ w = .start b words) := by
  have live₀ : ¬ s.undisturbed.cancelled (.start b words) = true := Bool.false_ne_true
  rw [executeRetrying, if_neg live₀] at run₀
  rw [executeRetrying]
  cases hf : s.cancelled (.start b words) with
  | true =>
      rw [if_pos rfl]
      refine ⟨_, _, rfl, ?_, fun _ => ⟨rfl, rfl⟩⟩
      have disturbed : ¬ s.Calm [] := fun calm => Bool.false_ne_true (calm.live.symm.trans hf)
      refine ⟨.of_extends ⟨_, List.nil_append _⟩, ?_, ?_, ?_, ?_⟩
      · intro past rest h fired e he
        obtain ⟨rfl, rfl⟩ := List.append_eq_nil_iff.mp h.symm
        cases he
      · intro calm
        exact absurd calm disturbed
      · rintro ⟨past, service', i, r, rest, h, attempts, ends⟩
        cases attempts
      · intro _ _
        rfl
  | false =>
      rw [if_neg Bool.false_ne_true]
      have unfired : s.token.fired .empty = true →
          o₀ = .error (.cancelled service 0) ∧ w₀ = .start b words := fun h => by
        cases hf.symm.trans h
      have calm : s.Calm ((World.start b words).ask
          [.admits raw.method (p.admits raw.method)]).journal.toList :=
        (Calm.nil hf).append_still timely (by simp [Entry.isMoment])
      cases ha : p.admits raw.method with
      | true =>
          rw [ha] at run₀ calm
          rw [if_pos rfl] at run₀ ⊢
          obtain ⟨o, w, run, truncates⟩ := turns_truncates timely ⟨calm, rfl, rfl⟩ run₀
          refine ⟨o, w, run, truncates, fun h => ?_⟩
          cases hf.symm.trans h
      | false =>
          rw [ha] at run₀ calm
          rw [if_neg Bool.false_ne_true] at run₀ ⊢
          rw [bypass_undisturbed] at run₀
          refine ⟨o₀, w₀, run₀, bypass_truncates timely calm (Option.some.inj run₀), fun h => ?_⟩
          cases hf.symm.trans h

/-- The first attempt fails and the call waits for 1000 nanoseconds; its token fires after 100 of
them.  Undisturbed it would have ended with a response. -/
theorem executeRetrying_truncates_wait :
    ∃ p w w₀,
      (Setup.sample (.afterAttempt 1 ⟨100⟩)).undisturbed.executeRetrying 2 p "users" .sample
          (.start (.sample [.error ⟨.reset, "closed"⟩]) (.constant 0)) =
        some (.ok ⟨.ok, ""⟩, w₀) ∧
      (Setup.sample (.afterAttempt 1 ⟨100⟩)).executeRetrying 2 p "users" .sample
          (.start (.sample [.error ⟨.reset, "closed"⟩]) (.constant 0)) =
        some (.error (.cancelled "users" 1), w) ∧
      (Setup.sample (.afterAttempt 1 ⟨100⟩)).Truncates "users" (.error (.cancelled "users" 1)) w
        (.ok ⟨.ok, ""⟩) w₀ := by
  let p : Policy := { Policy.counting 1 1 with delay := fun _ words => (⟨1000⟩, words) }
  have run₀ : ((Setup.sample (.afterAttempt 1 ⟨100⟩)).undisturbed.executeRetrying 2 p "users"
      .sample (.start (.sample [.error ⟨.reset, "closed"⟩]) (.constant 0))).map
        (fun x => x.1.toOption) = some (some ⟨.ok, ""⟩) := by
    decide +kernel
  have run : ((Setup.sample (.afterAttempt 1 ⟨100⟩)).executeRetrying 2 p "users" .sample
      (.start (.sample [.error ⟨.reset, "closed"⟩]) (.constant 0))).map
        (fun x => match x.1 with
          | .ok _ => none
          | .error e => some e) = some (some (.cancelled "users" 1)) := by
    decide +kernel
  obtain ⟨⟨o₀, w₀⟩, run₀, ho₀⟩ := Option.map_eq_some_iff.mp run₀
  obtain ⟨o, w, run', truncates, -⟩ := executeRetrying_truncates (Trigger.timely rfl) run₀
  rw [run'] at run
  cases o₀ with
  | error e => cases ho₀
  | ok r =>
      obtain rfl := Option.some.inj ho₀
      cases o with
      | ok r => cases run
      | error e =>
          obtain rfl := Option.some.inj (Option.some.inj run)
          exact ⟨p, w, w₀, run₀, run', truncates⟩

end Failover.Setup
