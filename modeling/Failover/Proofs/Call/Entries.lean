import Failover.Balancer.Scripted
import Failover.Call.Retry

/-!
# Calls — what each operation enters

Every operation of a call changes the world in the same way: it may move the balancer and the
generator, and it enters something into the journal.  This module says what is entered, and cuts a
turn at its two looks at the token.

* `executeRetrying_of_admits`, `executeRetrying_of_refuses`: a call in turns, and one in a single
  attempt.
* `select_of_bound`, `select_of_fired`, `select_of_none`, `select_of_some`: a selection.
* `weigh_usable`, …, `weigh_granted`: what follows a reply.  Only a retry that is granted comes to
  a pause.
* `pause_of_fired`, `pause_of_live`: a pause.
-/

namespace Failover

/-! ### Journals as lists -/

namespace Entry

/-- Whether the balancer is asked for something. -/
def isCall : Entry → Bool
  | .chose .. => true
  | .attempted .. => true
  | .combined _ => true
  | _ => false

/-- Whether the policy is asked how long to wait. -/
def asksDelay : Entry → Bool
  | .asked (.delay ..) => true
  | _ => false

/-- Whether time can pass in the entry. -/
def isPause : Entry → Bool
  | .slept _ => true
  | .waited _ => true
  | _ => false

/-- Whether something is only noted down: a question, an event or a log line. -/
def isNote : Entry → Bool
  | .asked _ => true
  | .emitted _ => true
  | .logged _ => true
  | _ => false

/-- A note asks nothing of the balancer. -/
theorem isCall_of_isNote {e : Entry} (h : e.isNote = true) : e.isCall = false := by
  cases e <;> first | rfl | cases h

end Entry

namespace Journal

/-- The journal with the given entries. -/
def ofList (es : List Entry) : Journal := ⟨es.toArray⟩

@[simp] theorem toList_ofList {es : List Entry} : (ofList es).toList = es := rfl

@[simp] theorem ofList_toList {j : Journal} : ofList j.toList = j := rfl

theorem toList_injective {j k : Journal} (h : j.toList = k.toList) : j = k := by
  rw [← ofList_toList (j := j), h, ofList_toList]

theorem addAll_addAll {j : Journal} {as bs : List Entry} :
    (j.addAll as).addAll bs = j.addAll (as ++ bs) := by
  apply toList_injective
  simp

/-- The events among some entries. -/
def eventsIn (es : List Entry) : List Event := es.filterMap eventOf?

@[simp] theorem eventsIn_nil : eventsIn [] = [] := rfl

@[simp] theorem eventsIn_append {as bs : List Entry} :
    eventsIn (as ++ bs) = eventsIn as ++ eventsIn bs :=
  List.filterMap_append

/-- The instance that an entry tells to be given. -/
def givenOf? : Entry → Option Instance
  | .chose _ choice => choice
  | _ => none

/-- The instances that the balancer gave. -/
def given (j : Journal) : List Instance := j.toList.filterMap givenOf?

theorem choices_of_append {j : Journal} {as bs : List Entry} (h : j.toList = as ++ bs) :
    j.choices = (ofList as).choices ++ (ofList bs).choices := by
  rw [choices, h, List.filterMap_append]
  rfl

theorem attempts_of_append {j : Journal} {as bs : List Entry} (h : j.toList = as ++ bs) :
    j.attempts = (ofList as).attempts ++ (ofList bs).attempts := by
  rw [attempts, h, List.filterMap_append]
  rfl

/-! ### Time -/

/-- The time that has passed, over the list of entries. -/
theorem elapsed_eq {j : Journal} :
    j.elapsed = j.toList.foldl (fun t e => t + timeOf e) .zero := by
  simp [elapsed, toList]

/-- Only pauses take time. -/
theorem timeOf_of_not_isPause {e : Entry} (h : e.isPause = false) : timeOf e = .zero := by
  cases e <;> first | rfl | cases h

/-- Entries in which no time passes leave the time as it is. -/
theorem elapsed_addAll {j : Journal} {es : List Entry}
    (h : ∀ e ∈ es, e.isPause = false) : (j.addAll es).elapsed = j.elapsed := by
  rw [elapsed_eq, elapsed_eq, toList_addAll, List.foldl_append]
  generalize j.toList.foldl (fun t e => t + timeOf e) .zero = t
  induction es with
  | nil => rfl
  | cons e es ih =>
    have he : timeOf e = .zero := by
      have := h e (by simp)
      cases e <;> first | rfl | cases this
    rw [List.foldl_cons, he]
    exact ih fun e' he' => h e' (by simp [he'])

end Journal

/-! ### Worlds -/

namespace World

variable {σ : Type} {w : World σ} {es : List Entry}

@[simp] theorem toList_addAll : (w.addAll es).journal.toList = w.journal.toList ++ es :=
  Journal.toList_addAll

@[simp] theorem balancer_addAll : (w.addAll es).balancer = w.balancer := rfl

@[simp] theorem words_addAll : (w.addAll es).words = w.words := rfl

theorem addAll_addAll {as bs : List Entry} : (w.addAll as).addAll bs = w.addAll (as ++ bs) := by
  simp only [addAll, Journal.addAll_addAll]

theorem choices_addAll :
    (w.addAll es).journal.choices = w.journal.choices ++ (Journal.ofList es).choices :=
  Journal.choices_of_append toList_addAll

theorem attempts_addAll :
    (w.addAll es).journal.attempts = w.journal.attempts ++ (Journal.ofList es).attempts :=
  Journal.attempts_of_append toList_addAll

theorem length_attempts_attempted {service : String} {r : Request} {i : Instance} :
    (w.addAll [.attempted service i r]).journal.attempts.length = w.journal.attempts.length + 1 :=
  (congrArg List.length attempts_addAll).trans List.length_append

theorem events_addAll :
    (w.addAll es).journal.events = w.journal.events ++ Journal.eventsIn es := by
  rw [Journal.events, toList_addAll, List.filterMap_append]
  rfl

theorem add_eq {e : Entry} : w.add e = w.addAll [e] := rfl

theorem log_eq {l : LogLine} : w.log l = w.addAll [.logged l] := rfl

theorem log_addAll {l : LogLine} : (w.log l).addAll es = w.addAll (.logged l :: es) := by
  rw [log_eq, addAll_addAll, List.singleton_append]

end World

/-! ### Contexts -/

namespace Context

variable {c : Context} {m : Move} {i : Instance}

theorem service_after : (c.after m).service = c.service := by
  cases m <;> rfl

theorem attempts_after : (c.after m).attempts = c.attempts := by
  cases m <;> rfl

/-- No move binds an instance. -/
theorem bound_of_after (h : (c.after m).bound = some i) : c.bound = some i := by
  cases m with
  | same => exact h
  | next => cases h
  | giveUp => exact h

end Context

/-! ### Whole calls -/

/-- The token may fire, at some point of some call. -/
def Cancellation.Fires (t : Cancellation) : Prop :=
  (∃ j, t.fired j = true) ∨ ∃ j delay time, t.during j delay = some time

/-- The trigger that names no moment never fires. -/
theorem Trigger.not_fires_never {sink : Sink} : ¬ (Trigger.never.cancellation sink).Fires := by
  rintro (⟨j, h⟩ | ⟨j, delay, time, h⟩) <;> cases h

namespace Setup

variable {σ : Type} {s : Setup σ} {p : Policy} {c : Context} {w : World σ} {i : Instance}
  {reply : Except Failure Response} {last : LastOutcome} {service : String} {raw : Request}
  {limit : Nat}

/-- A token that does not fire lets every check pass. -/
theorem live_of_silent (silent : ¬ s.token.Fires) : s.cancelled w = false :=
  Bool.eq_false_iff.mpr fun fired => silent (.inl ⟨_, fired⟩)

/-- A call that is admitted goes on in turns. -/
theorem executeRetrying_of_admits (live : s.cancelled w = false)
    (admits : p.admits raw.method = true) :
    s.executeRetrying limit p service raw w =
      s.turns p raw limit (.fresh service) (w.ask [.admits raw.method true]) := by
  rw [executeRetrying, if_neg (by simp [live]), admits, if_pos rfl]

/-- A call that is not admitted is bypassed. -/
theorem executeRetrying_of_refuses (live : s.cancelled w = false)
    (refuses : p.admits raw.method = false) :
    s.executeRetrying limit p service raw w =
      some (s.bypass p service raw (w.ask [.admits raw.method false])) := by
  rw [executeRetrying, if_neg (by simp [live]), refuses, if_neg Bool.false_ne_true]

/-! ### Events -/

/-- What is entered when an event is sent to the sink. -/
def emission (s : Setup σ) (e : Event) : List Entry :=
  .emitted e :: (s.sink.logLine? e).toList.map .logged

theorem emit_eq {e : Event} : s.emit w e = w.addAll (s.emission e) := by
  rw [emit, World.add_eq, World.addAll_addAll]
  rfl

@[simp] theorem eventsIn_emission {e : Event} : Journal.eventsIn (s.emission e) = [e] := by
  unfold emission Journal.eventsIn
  cases s.sink.logLine? e <;> rfl

/-- An emission is an event with at most a log line after it. -/
theorem mem_emission {e : Event} {x : Entry} (h : x ∈ s.emission e) :
    x = .emitted e ∨ ∃ l, x = .logged l := by
  rw [emission, List.mem_cons, List.mem_map] at h
  rcases h with h | ⟨l, -, h⟩
  · exact .inl h
  · exact .inr ⟨l, h.symm⟩

/-! ### Selections -/

/-- A bound instance is kept, without a look at the token. -/
theorem select_of_bound (h : c.bound = some i) : s.select c w = .bound i c w := by
  simp only [select, h]

/-- Once the token has fired no instance is asked for. -/
theorem select_of_fired (h : c.bound = none) (hf : s.cancelled w = true) :
    s.select c w = .over (cancelledOutcome c) w := by
  simp only [select, h, hf, if_true]

/-- What is entered when an instance has been selected. -/
def selectedEntries (s : Setup σ) (c : Context) (i : Instance) : List Entry :=
  .chose c.service (some i) :: .logged (selectedLine (c.bind i) i) ::
    s.emission (.instanceSelected c.service i.id (c.bind i).distinct)

/-- The call ends where the balancer has nothing to offer. -/
theorem select_of_none {b : σ} (h : c.bound = none) (hf : s.cancelled w = false)
    (hb : s.balancer.choose c.service w.balancer = (none, b)) :
    s.select c w = .over (.error (.noInstanceAvailable c.service))
      ({ w with balancer := b }.addAll [.chose c.service none, .logged (noInstanceLine c)]) := by
  simp only [select, h, hf, Bool.false_eq_true, if_false, choose, hb]
  rfl

/-- An instance that is offered gets bound, and is told of. -/
theorem select_of_some {b : σ} (h : c.bound = none) (hf : s.cancelled w = false)
    (hb : s.balancer.choose c.service w.balancer = (some i, b)) :
    s.select c w =
      .bound i (c.bind i) ({ w with balancer := b }.addAll (s.selectedEntries c i)) := by
  simp only [select, h, hf, Bool.false_eq_true, if_false, choose, hb, emit_eq, World.log_eq,
    World.add_eq, World.addAll_addAll]
  rfl

/-! ### Replies -/

/-- What is entered when an outcome is worth another attempt. -/
def failedEntries (s : Setup σ) (p : Policy) (c : Context) (i : Instance)
    (reply : Except Failure Response) (last : LastOutcome) : List Entry :=
  (p.verdictQuestions reply).map .asked ++ .logged (attemptFailedLine c i last) ::
    (s.emission (.attemptFailed c.service i.id c.attempts last.text) ++
      (p.moveQuestions c).map .asked)

/-- A usable response ends the call, and is told of. -/
theorem weigh_usable {r : Response} (h : p.verdict reply = .usable r) :
    s.weigh p c w i reply =
      .over (.ok r) (w.addAll ((p.verdictQuestions reply).map .asked ++
        s.emission (.succeeded c.service c.attempts
          (w.ask (p.verdictQuestions reply)).journal.elapsed))) := by
  simp only [weigh, h, emit_eq, World.ask, World.addAll_addAll]

/-- A cancellation by the transport ends the call without an event. -/
theorem weigh_cancelled (h : p.verdict reply = .cancelled) :
    s.weigh p c w i reply =
      .over (cancelledOutcome c) (w.addAll ((p.verdictQuestions reply).map .asked)) := by
  simp only [weigh, h, World.ask]

/-- So does a failure that is not worth a retry; it is only logged. -/
theorem weigh_fatal {f : Failure} (h : p.verdict reply = .fatal f) :
    s.weigh p c w i reply =
      .over (.error (.connectivity c.service f))
        (w.addAll ((p.verdictQuestions reply).map .asked ++ [.logged (fatalLine c f)])) := by
  simp only [weigh, h, World.ask, World.log_eq, World.addAll_addAll]

/-- An outcome worth another attempt is entered before the policy decides where that goes. -/
theorem weigh_retryable (h : p.verdict reply = .retryable last) :
    s.weigh p c w i reply =
      match p.move c with
      | .giveUp => s.giveUp c (w.addAll (s.failedEntries p c i reply last)) last
      | .same => s.pause p true (c.after .same) (w.addAll (s.failedEntries p c i reply last))
      | .next => s.pause p false (c.after .next) (w.addAll (s.failedEntries p c i reply last)) := by
  have hw : ((w.ask (p.verdictQuestions reply)).log (attemptFailedLine c i last)).addAll
      (s.emission (.attemptFailed c.service i.id c.attempts last.text) ++
        (p.moveQuestions c).map .asked) = w.addAll (s.failedEntries p c i reply last) := by
    simp only [World.ask, World.log_eq, World.addAll_addAll, failedEntries, List.append_assoc,
      List.cons_append, List.nil_append]
  simp only [weigh, h, retry, emit_eq]
  rw [← hw, ← World.addAll_addAll]
  rfl

/-- A retry that is granted comes to a pause. -/
theorem weigh_granted (h : p.verdict reply = .retryable last) (granted : p.move c ≠ .giveUp) :
    s.weigh p c w i reply =
      s.pause p (decide (p.move c = .same)) (c.after (p.move c))
        (w.addAll (s.failedEntries p c i reply last)) := by
  rw [weigh_retryable h]
  cases hm : p.move c with
  | giveUp => exact absurd hm granted
  | same => rfl
  | next => rfl

/-- A call with a single attempt gives up without an event. -/
theorem giveUp_first (h : c.attempts = 1) :
    s.giveUp c w last = .over (last.asOutcome c.service) w := by
  rw [giveUp, if_pos h]

/-- One with more says that its budget is spent. -/
theorem giveUp_later (h : c.attempts ≠ 1) :
    s.giveUp c w last =
      .over (.error (.budgetExhausted c.service c.attempts c.distinct last))
        (w.addAll (.logged (exhaustedLine c last) ::
          s.emission (.exhausted c.service c.attempts c.distinct
            (w.log (exhaustedLine c last)).journal.elapsed))) := by
  rw [giveUp, if_neg h]
  simp only [emit_eq, World.log_eq, World.addAll_addAll, List.cons_append, List.nil_append]

/-! ### Pauses -/

/-- What is entered when a retry is scheduled. -/
def scheduledEntries (s : Setup σ) (sameInstance : Bool) (c : Context) (delay : Duration) :
    List Entry :=
  .asked (.delay c delay) :: s.emission (.retryScheduled c.service sameInstance delay)

/-- The world in which a retry has been scheduled. -/
def scheduled (s : Setup σ) (p : Policy) (sameInstance : Bool) (c : Context) (w : World σ) :
    World σ :=
  { w with words := (p.delay c w.words).2 }.addAll
    (s.scheduledEntries sameInstance c (p.delay c w.words).1)

/-- Once the token has fired no retry is scheduled. -/
theorem pause_of_fired {same : Bool} (h : s.cancelled w = true) :
    s.pause p same c w = .over (cancelledOutcome c) w := by
  rw [pause, if_pos h]

/-- A pause as long as the token has not fired: the retry is scheduled, and its delay is waited
out. -/
theorem pause_of_live {same : Bool} (h : s.cancelled w = false) :
    s.pause p same c w =
      if (p.delay c w.words).1.nanos = 0 then .again c (s.scheduled p same c w)
      else
        match s.sleep (s.scheduled p same c w) (p.delay c w.words).1 with
        | (true, w) => .over (cancelledOutcome c) w
        | (false, w) => .again c w := by
  rw [pause, if_neg (by simp [h])]
  simp only [emit_eq, World.ask, World.addAll_addAll]
  rfl

/-! ### Waits -/

variable {d : Duration}

/-- A wait that the token forestalls is entered and not begun. -/
theorem sleep_of_fired (h : s.cancelled (w.addAll [.slept d]) = true) :
    s.sleep w d = (true, w.addAll [.slept d]) := by
  rw [sleep, World.add_eq, if_pos h]

/-- A wait that is only recorded takes no time. -/
theorem sleep_of_recording (h : s.cancelled (w.addAll [.slept d]) = false)
    (hs : s.sleeper = .recording) : s.sleep w d = (false, w.addAll [.slept d]) := by
  rw [sleep, World.add_eq, if_neg (by simp [h]), hs]

/-- A wait that the token cuts takes the time until then. -/
theorem sleep_of_during {time : Duration} (h : s.cancelled (w.addAll [.slept d]) = false)
    (hs : s.sleeper = .timer)
    (hd : s.token.during (w.addAll [.slept d]).journal d = some time) :
    s.sleep w d = (true, w.addAll [.slept d, .waited time]) := by
  rw [sleep, World.add_eq, if_neg (by simp [h]), hs]
  simp only [hd, World.add_eq, World.addAll_addAll]
  rfl

/-- Any other wait takes all of its time. -/
theorem sleep_of_silent (h : s.cancelled (w.addAll [.slept d]) = false)
    (hs : s.sleeper = .timer) (hd : s.token.during (w.addAll [.slept d]).journal d = none) :
    s.sleep w d = (false, w.addAll [.slept d, .waited d]) := by
  rw [sleep, World.add_eq, if_neg (by simp [h]), hs]
  simp only [hd, World.add_eq, World.addAll_addAll]
  rfl

/-- A wait enters nothing but pauses, and is cut short only by the token. -/
theorem sleep_pauses :
    ∃ es : List Entry, (∀ e ∈ es, e.isPause = true) ∧ (s.sleep w d).2 = w.addAll es ∧
      ((s.sleep w d).1 = true → s.token.Fires) := by
  cases h : s.cancelled (w.addAll [.slept d]) with
  | true =>
      rw [sleep_of_fired h]
      exact ⟨[.slept d], by simp [Entry.isPause], rfl, fun _ => .inl ⟨_, h⟩⟩
  | false =>
      cases hs : s.sleeper with
      | recording =>
          rw [sleep_of_recording h hs]
          exact ⟨[.slept d], by simp [Entry.isPause], rfl, fun h => nomatch h⟩
      | timer =>
          cases hd : s.token.during (w.addAll [.slept d]).journal d with
          | some time =>
              rw [sleep_of_during h hs hd]
              exact ⟨[.slept d, .waited time], by simp [Entry.isPause], rfl,
                fun _ => .inr ⟨_, _, _, hd⟩⟩
          | none =>
              rw [sleep_of_silent h hs hd]
              exact ⟨[.slept d, .waited d], by simp [Entry.isPause], rfl, fun h => nomatch h⟩

end Setup

/-! ### Rehearsals -/

/-- An instance whose address can be used. -/
def Instance.sample (id : String) : Instance := ⟨"users", id, id, 8080, false, .empty⟩

/-- A request without a host: services are called by name. -/
def Request.sample : Request := .ofUri .get (.target .root)

/-- A pool of two instances, with outcomes queued for it. -/
def Script.sample (outcomes : List (Except Failure Status)) : Script :=
  { Script.empty with pool := [.sample "a", .sample "b"], outcomes := outcomes }

/-- A setup with a scripted balancer, a clock, and a token that fires at a given moment. -/
def Setup.sample (t : Trigger) : Setup Script :=
  ⟨.scripted false, ⟨[]⟩, .memory, .timer, t.cancellation .memory⟩

end Failover
