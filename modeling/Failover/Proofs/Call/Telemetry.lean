import Failover.Proofs.Call.Bypass

/-!
# Calls — watched by a memory of events

A bounded memory keeps the newest events, and a call cannot tell whether it is watched: the only
part of a setup that differs between a memory and no sink at all is what an event writes to the log,
and neither of the two writes there.

* `MemorySink.Holds`: what a memory holds after some events.
* `MemorySink.Holds.emitAll`: a memory that is sent more events, one by one.
* `Client.execute_withSink`: sinks that write the same to the log are all the same to a call.
* `Session.Call.runAll_watched`: a session, call by call.
-/

namespace Failover

/-! ### What a memory holds -/

namespace MemorySink

/-- A memory was created with a capacity, zero standing for one, and the events were sent to it: it
retains the newest of them, in order, and counts the others. -/
structure Holds (m : MemorySink) (capacity : Nat) (events : List Event) : Prop where
  room : m.capacity = max capacity 1
  newest : m.retained <:+ events
  retained : m.retained.length = min events.length (max capacity 1)
  evicted : m.evicted = events.length - min events.length (max capacity 1)

variable {m : MemorySink} {capacity : Nat} {events es : List Event} {e : Event}

/-- A new memory holds nothing. -/
theorem Holds.ofCapacity : (ofCapacity capacity).Holds capacity [] where
  room := rfl
  newest := List.suffix_rfl
  retained := (Nat.zero_min _).symm
  evicted := rfl

/-- In a full memory another event takes the place of the oldest. -/
theorem Holds.emit (h : m.Holds capacity events) : (m.emit e).Holds capacity (events ++ [e]) := by
  obtain ⟨room, ⟨dropped, rfl⟩, retained, evicted⟩ := h
  rw [List.length_append] at retained evicted
  unfold MemorySink.emit
  split
  · rename_i full
    refine ⟨room, ?_, ?_, ?_⟩
    · refine ⟨dropped ++ m.retained.take 1, ?_⟩
      simp only [List.append_assoc, List.append_cancel_left_eq]
      rw [← List.append_assoc, List.take_append_drop]
    · simp only [List.length_append, List.length_drop, List.length_singleton]
      omega
    · simp only [List.length_append, List.length_singleton]
      omega
  · rename_i free
    refine ⟨room, ?_, ?_, ?_⟩
    · exact ⟨dropped, (List.append_assoc _ _ _).symm⟩
    · simp only [List.length_append, List.length_singleton]
      omega
    · simp only [List.length_append, List.length_singleton]
      omega

/-- A memory that is given events holds the newest of all. -/
theorem Holds.emitAll (h : m.Holds capacity events) :
    (m.emitAll es).Holds capacity (events ++ es) := by
  induction es generalizing m events with
  | nil => rwa [List.append_nil]
  | cons e es ih =>
      have next : ((m.emit e).emitAll es).Holds capacity (events ++ [e] ++ es) := ih h.emit
      rwa [List.append_assoc, List.singleton_append] at next

end MemorySink

/-! ### Sinks that a call cannot tell apart -/

namespace Setup

variable {σ : Type} {s : Setup σ} {sink sink' : Sink} {p : Policy} {service : String}
  {raw : Request} {c : Context} {w : World σ} {i : Instance} {limit : Nat}

/-- The setup with another sink. -/
def withSink (s : Setup σ) (sink : Sink) : Setup σ := { s with sink := sink }

variable (log : sink.logLine? = sink'.logLine?)
include log

theorem emit_withSink {e : Event} : (s.withSink sink).emit w e = (s.withSink sink').emit w e := by
  simp only [emit, withSink, log]

theorem select_withSink : (s.withSink sink).select c w = (s.withSink sink').select c w := by
  simp only [select, emit_withSink log]
  rfl

theorem giveUp_withSink {last : LastOutcome} :
    (s.withSink sink).giveUp c w last = (s.withSink sink').giveUp c w last := by
  simp only [giveUp, emit_withSink log]

theorem pause_withSink {same : Bool} :
    (s.withSink sink).pause p same c w = (s.withSink sink').pause p same c w := by
  simp only [pause, emit_withSink log]
  rfl

theorem retry_withSink {last : LastOutcome} :
    (s.withSink sink).retry p c w i last = (s.withSink sink').retry p c w i last := by
  simp only [retry, emit_withSink log, giveUp_withSink log, pause_withSink log]

theorem weigh_withSink {reply : Except Failure Response} :
    (s.withSink sink).weigh p c w i reply = (s.withSink sink').weigh p c w i reply := by
  simp only [weigh, emit_withSink log, retry_withSink log]

/-- A turn does not depend on where the events go. -/
theorem turn_withSink : (s.withSink sink).turn p raw c w = (s.withSink sink').turn p raw c w := by
  simp only [turn, select_withSink log, attempt, weigh_withSink log]
  rfl

theorem turns_withSink :
    (s.withSink sink).turns p raw limit c w = (s.withSink sink').turns p raw limit c w := by
  induction limit generalizing c w with
  | zero => rfl
  | succ limit ih => simp only [turns, turn_withSink log, ih]

/-- Nor does a plain call. -/
theorem executePlain_withSink :
    (s.withSink sink).executePlain w service raw =
      (s.withSink sink').executePlain w service raw := by
  simp only [executePlain, emit_withSink log]
  rfl

/-- Nor does a call with retries. -/
theorem executeRetrying_withSink :
    (s.withSink sink).executeRetrying limit p service raw w =
      (s.withSink sink').executeRetrying limit p service raw w := by
  simp only [executeRetrying, bypass, emit_withSink log, turns_withSink log]
  rfl

end Setup

/-- **Sinks that write the same to the log are all the same to a call.** -/
theorem Client.execute_withSink {σ : Type} {client : Client} {s : Setup σ} {sink sink' : Sink}
    {service : String} {raw : Request} {w : World σ} (log : sink.logLine? = sink'.logLine?) :
    client.execute (s.withSink sink) service raw w =
      client.execute (s.withSink sink') service raw w := by
  cases client with
  | plain => exact congrArg some (Setup.executePlain_withSink log)
  | retrying registry => exact Setup.executeRetrying_withSink log

/-! ### Sessions -/

namespace Session

variable {σ : Type}

/-- The session after a call has come to a world. -/
def after (session : Session σ) (sink : Sink) (w : World σ) : Session σ :=
  ⟨w.balancer, w.words,
    if sink.keeps then session.memory.emitAll w.journal.events else session.memory⟩

namespace Call

/-- What a call comes to, from a state of the balancer and of the generator. -/
def execute (c : Call σ) (b : σ) (words : Words) : Option (Outcome × World σ) :=
  c.client.execute c.setup c.service c.raw (.start b words)

variable {c : Call σ} {calls done later : List (Call σ)} {session session' : Session σ} {b : σ}
  {words : Words} {reports : List Report} {o : Outcome} {w : World σ}

theorem runAll_of_none (h : c.execute session.balancer session.words = none) :
    session.runAll (c :: calls) = none := by
  rw [execute] at h
  rw [runAll, run, h]

theorem runAll_of_some (h : c.execute session.balancer session.words = some (o, w)) :
    session.runAll (c :: calls) = ((session.after c.setup.sink w).runAll calls).map
      fun x => (⟨o, w.journal⟩ :: x.1, x.2) := by
  rw [execute] at h
  cases hall : (session.after c.setup.sink w).runAll calls with
  | none =>
      rw [after] at hall
      simp only [runAll, run, h, hall]
      rfl
  | some x =>
      rw [after] at hall
      simp only [runAll, run, h, hall]
      rfl

/-- The calls that were made first have returned as well. -/
theorem runAll_done (run : session.runAll (done ++ later) = some (reports, session')) :
    ∃ made between, session.runAll done = some (made, between) ∧ made <+: reports := by
  induction done generalizing session reports with
  | nil => exact ⟨[], session, rfl, List.nil_prefix⟩
  | cons c done ih =>
      cases h : c.execute session.balancer session.words with
      | none =>
          rw [List.cons_append, runAll_of_none h] at run
          cases run
      | some x =>
          obtain ⟨o, w⟩ := x
          rw [List.cons_append, runAll_of_some h, Option.map_eq_some_iff] at run
          obtain ⟨⟨rest, _⟩, hrest, hreports⟩ := run
          cases hreports
          obtain ⟨made, between, hmade, first⟩ := ih hrest
          refine ⟨⟨o, w.journal⟩ :: made, between, ?_, List.cons_prefix_cons.mpr ⟨rfl, first⟩⟩
          rw [runAll_of_some h, hmade]
          rfl

/-- The call with its events sent to another sink. -/
def through (c : Call σ) (sink : Sink) : Call σ := { c with setup := c.setup.withSink sink }

/-- A call cannot tell a memory from no sink at all. -/
theorem through_null_execute :
    (c.through .null).execute b words = (c.through .memory).execute b words :=
  Client.execute_withSink rfl

/-- A session through a memory is the session without a sink, with all its events sent to the
memory. -/
theorem runAll_through (memory : MemorySink)
    (run : session.runAll (calls.map (·.through .memory)) = some (reports, session')) :
    (⟨session.balancer, session.words, memory⟩ : Session σ).runAll (calls.map (·.through .null)) =
        some (reports, ⟨session'.balancer, session'.words, memory⟩) ∧
      session'.memory = session.memory.emitAll (reports.flatMap (·.journal.events)) := by
  induction calls generalizing session reports with
  | nil =>
      cases run
      exact ⟨rfl, rfl⟩
  | cons c calls ih =>
      rw [List.map_cons] at run ⊢
      cases h : (c.through .memory).execute session.balancer session.words with
      | none =>
          rw [runAll_of_none h] at run
          cases run
      | some x =>
          obtain ⟨o, w⟩ := x
          rw [runAll_of_some h, Option.map_eq_some_iff] at run
          obtain ⟨⟨rest, _⟩, hrest, hreports⟩ := run
          cases hreports
          obtain ⟨hnull, hmemory⟩ := ih hrest
          let unwatched : Session σ := ⟨session.balancer, session.words, memory⟩
          have hw : (c.through .null).execute unwatched.balancer unwatched.words = some (o, w) :=
            through_null_execute.trans h
          refine ⟨?_, ?_⟩
          · rw [runAll_of_some hw]
            exact congrArg (Option.map _) hnull
          · rw [hmemory, List.flatMap_cons]
            exact List.foldl_append.symm

/-- What holds after the calls `done` of a session through a memory of the given capacity. -/
structure Watched (b : σ) (words : Words) (capacity : Nat) (done : List (Call σ))
    (reports : List Report) (session : Session σ) : Prop where
  run : (⟨b, words, .ofCapacity capacity⟩ : Session σ).runAll (done.map (·.through .memory)) =
    some (reports, session)
  /-- Without a sink the calls come to the same, with the same attempts, events and waits, and leave
  the balancer and the generator as they do here. -/
  unwatched : ∀ memory, (⟨b, words, memory⟩ : Session σ).runAll (done.map (·.through .null)) =
    some (reports, ⟨session.balancer, session.words, memory⟩)
  /-- The memory holds the newest of all events so far. -/
  holds : session.memory.Holds capacity (reports.flatMap (·.journal.events))
  count : ∀ p, session.memory.count p = (session.memory.retained.filter p).length

/-- **A memory keeps exactly the newest events of a session, and no call can tell that it is
watched.**  This holds after each of the calls. -/
theorem runAll_watched {capacity : Nat}
    (run : (⟨b, words, .ofCapacity capacity⟩ : Session σ).runAll (calls.map (·.through .memory)) =
      some (reports, session')) (hdone : done <+: calls) :
    ∃ made between, Watched b words capacity done made between ∧ made <+: reports := by
  obtain ⟨later, rfl⟩ := hdone
  rw [List.map_append] at run
  obtain ⟨made, between, hmade, first⟩ := runAll_done run
  refine ⟨made, between, ⟨hmade, fun memory => (runAll_through memory hmade).1, ?_, fun p => ?_⟩,
    first⟩
  · have memory : between.memory = (MemorySink.ofCapacity capacity).emitAll
        (made.flatMap (·.journal.events)) := (runAll_through (.ofCapacity capacity) hmade).2
    rw [memory]
    exact MemorySink.Holds.ofCapacity.emitAll
  · exact List.countP_eq_length_filter

/-- A call that fails over, with a write to follow, through a memory for two events: after the first
call it holds the last selection and the success, and has dropped three events. -/
theorem runAll_watched_failover :
    let policy : Policy := .ofConfigured ⟨.default, none, none, rfl, rfl⟩
    let call (m : Method) : Call Script :=
      ⟨.retrying (.ofFallback policy), .sample .never, "users", { Request.sample with method := m }⟩
    let b : Script := .sample [.error ⟨.reset, "closed"⟩]
    let calls := [call .get, call .post]
    ∃ reports session', (⟨b, .constant 0, .ofCapacity 2⟩ : Session Script).runAll
        (calls.map (·.through .memory)) = some (reports, session') ∧ [call .get] <+: calls ∧
      ∃ made between, Watched b (.constant 0) 2 [call .get] made between ∧ made <+: reports ∧
        between.memory.retained.map Event.kind = [.instanceSelected, .succeeded] ∧
        between.memory.evicted = 3 := by
  intro policy call b calls
  let session : Session Script := ⟨b, .constant 0, .ofCapacity 2⟩
  have returned : ((session.runAll (calls.map (·.through .memory))).isSome) = true := by
    decide +kernel
  have held : (session.runAll ([call .get].map (·.through .memory))).map (fun x =>
      (x.2.memory.retained.map Event.kind, x.2.memory.evicted)) =
      some ([.instanceSelected, .succeeded], 3) := by
    decide +kernel
  obtain ⟨⟨reports, session'⟩, run⟩ := Option.isSome_iff_exists.mp returned
  have first : [call .get] <+: calls := ⟨[call .post], rfl⟩
  obtain ⟨made, between, watched, hmade⟩ := runAll_watched run first
  rw [watched.run] at held
  obtain ⟨retained, evicted⟩ := Prod.mk.inj (Option.some.inj held)
  exact ⟨reports, session', run, first, made, between, watched, hmade, retained, evicted⟩

end Call

end Session

end Failover
