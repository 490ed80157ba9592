import Failover.Proofs.Call.Replay

/-!
# Calls — the course of a call

What happens between two calls of the balancer is fixed by the first of them, by the journal so
far and by the token.  `AfterChoice` and `AfterAttempt` say what follows a choice and an attempt:
the events before the balancer is called again, whether and how it is, and the outcome if it is
not.

* `turns_course`: the journal of every run keeps to them, at each of its entries.
* `executeRetrying_course`: so does the journal of a whole call.
-/

namespace Failover

/-! ### Up to the next call -/

/-- The entries tell of the given events before the balancer is called, and the call is the given
one. -/
structure Continues (es : List Entry) (events : List Event) (next : Option Entry) : Prop where
  told : Journal.eventsIn (es.takeWhile (!·.isCall)) = events
  called : es.find? (·.isCall) = next

variable {es later past : List Entry} {xs ys : List Event} {e : Entry} {next : Option Entry}

/-- A call to the balancer is the next one itself. -/
theorem Continues.call (h : e.isCall = true) : Continues (e :: es) [] (some e) where
  told := by
    rw [List.takeWhile_cons, h]
    rfl
  called := by rw [List.find?_cons, h]

/-- Entries without a call only put their events in front. -/
theorem Tells.continues_append (h : Tells es xs) (h' : Continues later ys next) :
    Continues (es ++ later) (xs ++ ys) next where
  told := by
    rw [List.takeWhile_append_of_pos fun e he => by rw [h.quiet e he]; rfl,
      Journal.eventsIn_append, h.told, h'.told]
  called := by
    have hn : es.find? (·.isCall) = none := by
      rw [List.find?_eq_none]
      intro e he
      rw [h.quiet e he]
      exact Bool.false_ne_true
    rw [List.find?_append, hn, Option.none_or, h'.called]

/-- Entries without a call lead to none. -/
theorem Tells.continues (h : Tells es xs) : Continues es xs none := by
  have nothing : Continues [] [] none := ⟨rfl, rfl⟩
  have h := h.continues_append nothing
  rwa [List.append_nil, List.append_nil] at h

/-- What follows is determined by the entries. -/
theorem Continues.unique {next' : Option Entry} (h : Continues es xs next)
    (h' : Continues es ys next') : xs = ys ∧ next = next' :=
  ⟨h.told.symm.trans h'.told, h.called.symm.trans h'.called⟩

/-- Where no call follows, nothing else is told. -/
theorem Continues.tells (h : Continues es xs none) : Tells es xs := by
  have quiet : ∀ e ∈ es, e.isCall = false := by
    intro e he
    have hn := List.find?_eq_none.mp h.called e he
    exact Bool.eq_false_iff.mpr hn
  have all : Tells es (Journal.eventsIn es) := ⟨quiet, rfl⟩
  exact ⟨quiet, (all.continues.unique h).1⟩

theorem Continues.not_quiet (h : Continues es xs (some e)) :
    ¬ ∀ x ∈ es, x.isCall = false := by
  intro quiet
  have called : e.isCall = true := List.find?_some h.called
  rw [quiet e (List.mem_of_find?_eq_some h.called)] at called
  cases called

/-- The balancer is called again exactly if a next call is known. -/
theorem Continues.exists_call_iff (h : Continues es xs next) :
    (∃ e ∈ es, e.isCall = true) ↔ next.isSome = true := by
  rw [← h.called, List.find?_isSome]

/-! ### At every entry -/

/-- Something holds at each of the later entries, with what came before it and what comes
after. -/
def Everywhere (P : (past : List Entry) → Entry → (rest : List Entry) → Prop)
    (past later : List Entry) : Prop :=
  ∀ mid e rest, later = mid ++ e :: rest → P (past ++ mid) e rest

namespace Everywhere

variable {P : List Entry → Entry → List Entry → Prop}

theorem nil : Everywhere P past [] := fun mid _ _ h => by
  cases mid <;> cases h

/-- What holds at an entry and everywhere behind it holds everywhere. -/
theorem cons (h : P past e later) (h' : Everywhere P (past ++ [e]) later) :
    Everywhere P past (e :: later) := by
  intro mid x rest hm
  cases mid with
  | nil =>
      obtain ⟨rfl, rfl⟩ := List.cons.inj hm
      rw [List.append_nil]
      exact h
  | cons y mid =>
      obtain ⟨rfl, hl⟩ := List.cons.inj hm
      have := h' mid x rest hl
      rwa [List.append_assoc, List.singleton_append] at this

theorem head (h : Everywhere P past (e :: later)) : P past e later := by
  have := h [] e later rfl
  rwa [List.append_nil] at this

theorem tail (h : Everywhere P past (e :: later)) : Everywhere P (past ++ [e]) later := by
  intro mid x rest hm
  have := h (e :: mid) x rest (by rw [hm, List.cons_append])
  rwa [List.append_assoc, List.singleton_append]

theorem drop (h : Everywhere P past (es ++ later)) : Everywhere P (past ++ es) later := by
  intro mid x rest hm
  have := h (es ++ mid) x rest (by rw [hm, List.append_assoc])
  rwa [← List.append_assoc] at this

/-- Entries at which it holds anyway may stand in front. -/
theorem append (h : ∀ e ∈ es, ∀ past rest, P past e rest)
    (h' : Everywhere P (past ++ es) later) : Everywhere P past (es ++ later) := by
  induction es generalizing past with
  | nil => rwa [List.append_nil] at h'
  | cons e es ih =>
      refine cons (h e List.mem_cons_self past (es ++ later)) (ih ?_ ?_)
      · exact fun x hx => h x (List.mem_cons_of_mem e hx)
      · rwa [List.append_assoc, List.singleton_append]

/-- What does not hang on what comes after holds of entries put together. -/
theorem extend {Q : List Entry → Entry → Prop} (h : Everywhere (fun past e _ => Q past e) past es)
    (h' : Everywhere (fun past e _ => Q past e) (past ++ es) later) :
    Everywhere (fun past e _ => Q past e) past (es ++ later) := by
  induction es generalizing past with
  | nil => rwa [List.append_nil] at h'
  | cons e es ih =>
      refine cons h.head (ih h.tail ?_)
      rwa [List.append_assoc, List.singleton_append]

/-- What holds wherever an entry stands holds everywhere. -/
theorem of_forall (h : ∀ e ∈ es, ∀ past rest, P past e rest) : Everywhere P past es := by
  have : Everywhere P past (es ++ []) := append h nil
  rwa [List.append_nil] at this

end Everywhere

namespace Setup

variable {σ : Type}

/-! ### The law of a run -/

section

variable (s : Setup σ) (p : Policy) (service : String) (raw : Request) (b : σ) (o : Outcome)

/-- How a call goes on with an instance: after what is told first the attempt is made, unless the
request cannot be bound. -/
structure Reaches (i : Instance) (attempt : Nat) (told : List Event) (rest : List Entry) :
    Prop where
  unaddressable : ∀ f, s.pipeline.bind raw i attempt = .error f →
    Continues rest told none ∧ o = .error (.connectivity service f)
  attempted : ∀ r, s.pipeline.bind raw i attempt = .ok r →
    Continues rest told (some (.attempted service i r))

/-- What follows a choice: without an instance the call is over; with one it is told of and
attempted. -/
def AfterChoice (past : List Entry) (choice : Option Instance) (rest : List Entry) : Prop :=
  match choice with
  | none => Continues rest [] none ∧ o = .error (.noInstanceAvailable service)
  | some i =>
    let c := (Context.replay service past).bind i
    s.Reaches service raw o i (c.attempts + 1)
      [.instanceSelected service i.id c.distinct] rest

/-- How a call goes on after a retry was scheduled: its token fires, or the next attempt is on the
same instance without a selection, or an instance is selected. -/
inductive AfterSchedule (i : Instance) (c : Context) (m : Move) : Option Entry → Prop where
  | cancelled (outcome : o = cancelledOutcome c) : AfterSchedule i c m none
  | same {r : Request} (move : m = .same) :
      AfterSchedule i c m (some (.attempted c.service i r))
  | next {choice : Option Instance} (move : m = .next) :
      AfterSchedule i c m (some (.chose c.service choice))

/-- What follows an outcome worth another attempt: it is told of, and then either the attempts are
spent, or the token has fired, or a retry is scheduled. -/
def AfterFailure (past : List Entry) (i : Instance) (c : Context) (last : LastOutcome)
    (rest : List Entry) : Prop :=
  let failed := Event.attemptFailed c.service i.id c.attempts last.text
  if p.move c = .giveUp then
    if c.attempts = 1 then Continues rest [failed] none ∧ o = last.asOutcome c.service
    else
      Continues rest [failed,
          .exhausted c.service c.attempts c.distinct (Journal.ofList (past ++ rest)).elapsed] none ∧
        o = .error (.budgetExhausted c.service c.attempts c.distinct last)
  else if s.token.fired (Journal.ofList (past ++ untilDelay rest)) then
    Continues rest [failed] none ∧ o = cancelledOutcome c
  else
    ∃ delay next, Continues rest
        [failed, .retryScheduled c.service (decide (p.move c = .same)) delay] next ∧
      AfterSchedule o i c (p.move c) next

/-- What follows an attempt, by what its reply means.  The past ends with the attempt, which is
counted in `c`. -/
def AfterReply (past : List Entry) (i : Instance) (c : Context)
    (reply : Except Failure Response) (rest : List Entry) : Prop :=
  match p.verdict reply with
  | .usable response =>
    Continues rest
        [.succeeded c.service c.attempts (Journal.ofList (past ++ rest)).elapsed] none ∧
      o = .ok response
  | .cancelled => Continues rest [] none ∧ o = cancelledOutcome c
  | .fatal f => Continues rest [] none ∧ o = .error (.connectivity c.service f)
  | .retryable last => s.AfterFailure p o past i c last rest

/-- An attempt is numbered by those before it, sends what is bound under its number, and is followed
by what the balancer's reply calls for. -/
def AfterAttempt (past : List Entry) (i : Instance) (r : Request) (rest : List Entry) : Prop :=
  let c := (Context.replay service past).recordAttempt
  let reply := (s.balancer.executeOn service i r (s.balancer.replay b past)).1
  c.attempts = (Journal.ofList past).attempts.length + 1 ∧
    s.pipeline.bind raw i c.attempts = .ok r ∧
    s.AfterReply p o (past ++ [.attempted service i r]) i c reply rest

/-- What holds at an entry of a run that comes to the outcome `o`. -/
def Lawful (past : List Entry) (e : Entry) (rest : List Entry) : Prop :=
  match e with
  | .chose service' choice =>
    service' = service ∧
      choice = (s.balancer.choose service (s.balancer.replay b past)).1 ∧
      s.AfterChoice service raw o past choice rest
  | .attempted service' i r =>
    service' = service ∧ s.AfterAttempt p service raw b o past i r rest
  | .combined _ => False
  | _ => True

/-- How a turn begins: with an attempt on the instance that is kept; or else with a choice, unless
the token has fired. -/
inductive Opens (c : Context) (later : List Entry) : Prop where
  | kept {i : Instance} {r : Request} (bound : c.bound = some i)
      (continues : Continues later [] (some (.attempted c.service i r)))
  | chosen {choice : Option Instance} (unbound : c.bound = none)
      (continues : Continues later [] (some (.chose c.service choice)))
  | fired (unbound : c.bound = none) (continues : Continues later [] none)
      (outcome : o = cancelledOutcome c)

end

variable {s : Setup σ} {p : Policy} {service : String} {raw : Request} {b : σ} {o : Outcome}
  {c c₁ c' : Context} {w w₁ w' : World σ} {i : Instance} {r : Request} {rest : List Entry}

theorem Reaches.prepend {attempt : Nat} (h : Tells es xs)
    (h' : s.Reaches service raw o i attempt ys later) :
    s.Reaches service raw o i attempt (xs ++ ys) (es ++ later) where
  unaddressable f hf := by
    obtain ⟨continues, outcome⟩ := h'.unaddressable f hf
    exact ⟨h.continues_append continues, outcome⟩
  attempted r hr := h.continues_append (h'.attempted r hr)

/-- Entries that leave the balancer alone are lawful. -/
theorem lawful_of_quiet (h : e.isCall = false) {past rest : List Entry} :
    s.Lawful p service raw b o past e rest := by
  cases e <;> trivial

theorem journal_addAll :
    (w.addAll es).journal = Journal.ofList (w.journal.toList ++ es) :=
  Journal.toList_injective World.toList_addAll

/-! ### From the reply on -/

/-- A reaction that ends the call says what came after the reply. -/
theorem Reaction.ended {reply : Except Failure Response} {t : Turn σ}
    (h : s.Reaction p c w i reply t) (ht : t = .over o w') :
    ∃ es, w'.journal.toList = w.journal.toList ++ es ∧ (∀ e ∈ es, e.isCall = false) ∧
      s.AfterReply p o w.journal.toList i c reply es := by
  cases h with
  | @usable response es verdict tells =>
      cases ht
      refine ⟨es, World.toList_addAll, tells.quiet, ?_⟩
      rw [AfterReply, verdict, ← journal_addAll]
      exact ⟨tells.continues, rfl⟩
  | @cancelled es verdict tells =>
      cases ht
      refine ⟨es, World.toList_addAll, tells.quiet, ?_⟩
      rw [AfterReply, verdict]
      exact ⟨tells.continues, rfl⟩
  | @fatal f es verdict tells =>
      cases ht
      refine ⟨es, World.toList_addAll, tells.quiet, ?_⟩
      rw [AfterReply, verdict]
      exact ⟨tells.continues, rfl⟩
  | @single last es verdict move one tells =>
      cases ht
      refine ⟨es, World.toList_addAll, tells.quiet, ?_⟩
      rw [AfterReply, verdict]
      dsimp only
      rw [AfterFailure, if_pos move, if_pos one]
      exact ⟨tells.continues, rfl⟩
  | @spent last es verdict move more tells =>
      cases ht
      refine ⟨es, World.toList_addAll, tells.quiet, ?_⟩
      rw [AfterReply, verdict]
      dsimp only
      rw [AfterFailure, if_pos move, if_neg more, ← journal_addAll]
      exact ⟨tells.continues, rfl⟩
  | @interrupted last es verdict move fired undelayed tells =>
      cases ht
      refine ⟨es, World.toList_addAll, tells.quiet, ?_⟩
      rw [AfterReply, verdict]
      dsimp only
      rw [AfterFailure, if_neg move, untilDelay_of_not undelayed, ← journal_addAll, if_pos fired]
      exact ⟨tells.continues, rfl⟩
  | @cut last words es verdict move fires scheduling =>
      cases ht
      obtain ⟨delay, tells⟩ := scheduling.tells
      refine ⟨es, World.toList_addAll, tells.quiet, ?_⟩
      rw [AfterReply, verdict]
      dsimp only
      rw [AfterFailure, if_neg move, ← journal_addAll, if_neg (by simp [scheduling.live])]
      exact ⟨delay, none, tells.continues, .cancelled rfl⟩
  | again verdict move scheduling => cases ht

/-- What the next turn opens with is what may follow a scheduled retry. -/
theorem Opens.afterSchedule (bound : c.bound = some i) (move : p.move c ≠ .giveUp)
    (h : Opens o (c.after (p.move c)) later) :
    ∃ next, Continues later [] next ∧ AfterSchedule o i c (p.move c) next := by
  generalize p.move c = m at *
  cases m with
  | giveUp => exact absurd rfl move
  | same =>
      cases h with
      | @kept j r bound' continues =>
          obtain rfl : i = j := Option.some.inj (bound.symm.trans bound')
          exact ⟨_, continues, .same rfl⟩
      | chosen unbound continues => cases bound.symm.trans unbound
      | fired unbound continues outcome => cases bound.symm.trans unbound
  | next =>
      cases h with
      | kept bound' continues => cases bound'
      | chosen unbound continues => exact ⟨_, continues, .next rfl⟩
      | fired unbound continues outcome => exact ⟨_, continues, .cancelled outcome⟩

/-- A scheduled retry does to the counters what its event tells. -/
theorem foldl_follow_scheduled {x : String} {k : Nat} {text : String} {d : Duration}
    (move : p.move c ≠ .giveUp)
    (tells : Tells es [.attemptFailed service x k text,
      .retryScheduled service (decide (p.move c = .same)) d]) :
    es.foldl Context.follow c = c.after (p.move c) := by
  rw [Context.foldl_follow_of_tells tells]
  cases hm : p.move c with
  | giveUp => exact absurd hm move
  | same => rfl
  | next => rfl

/-- Whatever the rest of the call comes to, it follows a turn that led to it. -/
theorem Reaction.again_reply {reply : Except Failure Response}
    (bound : c.bound = some i) (h : s.Reaction p c w i reply (.again c' w')) :
    ∃ es, w'.journal.toList = w.journal.toList ++ es ∧ (∀ e ∈ es, e.isCall = false) ∧
      ∀ o later, Opens o c' later →
        s.AfterReply p o w.journal.toList i c reply (es ++ later) := by
  cases h with
  | @again last words es verdict move scheduling =>
      obtain ⟨delay, tells⟩ := scheduling.tells
      refine ⟨es, World.toList_addAll, tells.quiet, fun o later opens => ?_⟩
      obtain ⟨next, continues, after⟩ := opens.afterSchedule bound move
      rw [AfterReply, verdict]
      dsimp only
      rw [AfterFailure, if_neg move, untilDelay_append scheduling.delayed, ← journal_addAll,
        if_neg (by simp [scheduling.live])]
      have := tells.continues_append continues
      exact ⟨delay, next, this, after⟩

/-- The state before the next turn is the one that the journal gives. -/
theorem Reaction.stands {reply : Except Failure Response}
    (context : c = .replay service w.journal.toList)
    (balancer : w.balancer = s.balancer.replay b w.journal.toList)
    (bound : c.bound = some i) (bind : s.pipeline.bind raw i c.attempts = .ok r)
    (h : s.Reaction p c w i reply (.again c' w')) : s.Stands service raw b c' w' := by
  cases h with
  | @again last words es verdict move scheduling =>
      obtain ⟨delay, tells⟩ := scheduling.tells
      refine ⟨?_, ?_, ?_⟩
      · rw [World.toList_addAll, Context.replay_append]
        change c.after _ = es.foldl Context.follow (.replay service w.journal.toList)
        rw [← context, foldl_follow_scheduled move tells]
      · rw [World.toList_addAll, Balancer.replay_append, Balancer.replay_of_tells tells]
        exact balancer
      · intro j hj
        generalize p.move c = m at *
        have kept : c.bound = some j ∧ (c.after m).attempts = c.attempts := by
          cases m with
          | next => cases hj
          | same => exact ⟨hj, rfl⟩
          | giveUp => exact ⟨hj, rfl⟩
        obtain rfl : i = j := Option.some.inj (bound.symm.trans kept.1)
        rw [kept.2]
        exact Pipeline.bind_isOk_iff.mp ⟨r, bind⟩

/-- The balancer is called again only after a retry that was granted and scheduled. -/
theorem AfterReply.onward {reply : Except Failure Response} {events : List Event} {x : Entry}
    (h : s.AfterReply p o past i c reply rest) (continues : Continues rest events (some x)) :
    ∃ last delay, p.verdict reply = .retryable last ∧ p.move c ≠ .giveUp ∧
      events = [.attemptFailed c.service i.id c.attempts last.text,
        .retryScheduled c.service (decide (p.move c = .same)) delay] ∧
      AfterSchedule o i c (p.move c) (some x) := by
  have ended {told : List Event} {P : Prop} (h : Continues rest told none ∧ P) : False := by
    cases (h.1.unique continues).2
  unfold AfterReply at h
  cases hv : p.verdict reply with
  | usable response =>
      rw [hv] at h
      exact (ended h).elim
  | cancelled =>
      rw [hv] at h
      exact (ended h).elim
  | fatal f =>
      rw [hv] at h
      exact (ended h).elim
  | retryable last =>
      rw [hv] at h
      dsimp only [AfterFailure] at h
      by_cases hm : p.move c = .giveUp
      · rw [if_pos hm] at h
        split at h <;> exact (ended h).elim
      · rw [if_neg hm] at h
        split at h
        · exact (ended h).elim
        · obtain ⟨delay, next, continues', after⟩ := h
          obtain ⟨rfl, rfl⟩ := continues'.unique continues
          exact ⟨last, delay, rfl, hm, rfl, after⟩

/-- A retry that is granted leads to another call of the balancer, unless the token fires. -/
theorem AfterReply.granted {reply : Except Failure Response} {last : LastOutcome}
    (h : s.AfterReply p o past i c reply rest) (verdict : p.verdict reply = .retryable last)
    (move : p.move c ≠ .giveUp) (live : o ≠ cancelledOutcome c) :
    ∃ events x, Continues rest events (some x) := by
  unfold AfterReply at h
  rw [verdict] at h
  dsimp only [AfterFailure] at h
  rw [if_neg move] at h
  split at h
  · exact absurd h.2 live
  · obtain ⟨delay, next, continues, after⟩ := h
    cases after with
    | cancelled outcome => exact absurd outcome live
    | same => exact ⟨_, _, continues⟩
    | next => exact ⟨_, _, continues⟩

/-! ### What holds of every call of the balancer -/

/-- How a call of the balancer leads to the next: a choice to an attempt on the instance, and an
attempt, once a retry is scheduled, to what `AfterSchedule` says. -/
inductive Onward (s : Setup σ) (p : Policy) (service : String) (raw : Request) (b : σ) (o : Outcome)
    (past : List Entry) : Entry → List Event → Entry → Prop where
  | chosen {i : Instance} {r : Request}
      (bind : s.pipeline.bind raw i (((Context.replay service past).bind i).attempts + 1) = .ok r) :
      Onward s p service raw b o past (.chose service (some i))
        [.instanceSelected service i.id ((Context.replay service past).bind i).distinct]
        (.attempted service i r)
  | retried {c : Context} {i : Instance} {r : Request} {last : LastOutcome} {delay : Duration}
      {x : Entry} (counted : c = (Context.replay service past).recordAttempt)
      (verdict : p.verdict (s.balancer.executeOn service i r (s.balancer.replay b past)).1 =
        .retryable last)
      (move : p.move c ≠ .giveUp) (after : AfterSchedule o i c (p.move c) (some x)) :
      Onward s p service raw b o past (.attempted service i r)
        [.attemptFailed c.service i.id c.attempts last.text,
          .retryScheduled c.service (decide (p.move c = .same)) delay] x

/-- One call of the balancer leads to the next in one of these ways. -/
theorem Lawful.onward {events : List Event} {x : Entry} (he : e.isCall = true)
    (h : s.Lawful p service raw b o past e rest) (continues : Continues rest events (some x)) :
    s.Onward p service raw b o past e events x := by
  cases e with
  | chose service' choice =>
      obtain ⟨rfl, -, after⟩ := h
      cases choice with
      | none => cases (after.1.unique continues).2
      | some i =>
          cases hb : s.pipeline.bind raw i
              (((Context.replay service' past).bind i).attempts + 1) with
          | error f => cases ((after.unaddressable f hb).1.unique continues).2
          | ok r =>
              obtain ⟨rfl, hx⟩ := (after.attempted r hb).unique continues
              obtain rfl := Option.some.inj hx
              exact .chosen hb
  | attempted service' i r =>
      obtain ⟨rfl, -, -, reply⟩ := h
      obtain ⟨last, delay, verdict, move, rfl, after⟩ := reply.onward continues
      exact .retried rfl verdict move after
  | combined service' => exact h.elim
  | asked _ => cases he
  | emitted _ => cases he
  | logged _ => cases he
  | slept _ => cases he
  | waited _ => cases he

/-- What is true of the next call of the balancer, and with each call of the one after it, is true
of all that come later. -/
theorem lawful_everywhere {P : Context → Entry → Prop}
    (quiet : ∀ c e, e.isCall = false → P c e)
    (step : ∀ past e events x, P (.replay service past) e →
      s.Onward p service raw b o past e events x →
        P (events.foldl Context.hear (.replay service (past ++ [e]))) x)
    (lawful : Everywhere (s.Lawful p service raw b o) past later)
    (next : ∀ events x, Continues later events (some x) →
      P (events.foldl Context.hear (.replay service past)) x) :
    Everywhere (fun past e _ => P (.replay service past) e) past later := by
  induction later generalizing past with
  | nil => exact .nil
  | cons e later ih =>
      cases he : e.isCall with
      | false =>
          refine .cons (quiet _ e he) (ih lawful.tail fun events x continues => ?_)
          have tells : Tells [e] (Journal.eventsIn [e]) :=
            ⟨fun y hy => by rw [List.mem_singleton.mp hy, he], rfl⟩
          have := next _ x (tells.continues_append continues)
          rwa [List.foldl_append, ← Context.foldl_follow_of_tells tells,
            ← Context.replay_append] at this
      | true =>
          have here : P (.replay service past) e := next [] e (.call he)
          exact .cons here (ih lawful.tail fun events x continues =>
            step past e events x here (lawful.head.onward he continues))

/-! ### Up to the attempt -/

/-- What follows from having an instance follows a turn that found one. -/
theorem Target.course (h : s.Stands service raw b c w) (t : s.Target c w i c₁ w₁)
    (reaches : s.Reaches service raw o i (c₁.attempts + 1) [] later)
    (lawful : Everywhere (s.Lawful p service raw b o) w₁.journal.toList later) :
    ∃ pre, w₁.journal.toList = w.journal.toList ++ pre ∧
      Everywhere (s.Lawful p service raw b o) w.journal.toList (pre ++ later) ∧
      Opens o c (pre ++ later) := by
  cases t with
  | kept bound =>
      -- No selection: the request could be bound to this instance before, so it can be now.
      refine ⟨[], (List.append_nil _).symm, lawful, ?_⟩
      obtain ⟨r, hr⟩ := h.bindable i bound
      exact .kept bound (h.service_eq ▸ reaches.attempted r hr)
  | @chosen b' unbound live choice =>
      refine ⟨s.selectedEntries c i, World.toList_addAll, ?_, .chosen unbound (.call rfl)⟩
      rw [World.toList_addAll, selectedEntries, ← List.singleton_append, ← List.append_assoc]
        at lawful
      refine .cons ⟨h.service_eq, ?_, ?_⟩
        (.append (fun e he _ _ => lawful_of_quiet (tells_selected.quiet e he)) lawful)
      · rw [← h.balancer, ← h.service_eq, choice]
      · rw [AfterChoice, ← h.context, ← h.service_eq]
        have := reaches.prepend (tells_selected (s := s) (c := c) (i := i))
        rwa [← h.service_eq] at this

/-- What follows from the reply follows the attempt. -/
theorem Target.attempt_course {reply : Except Failure Response} {b' : σ}
    (h : s.Stands service raw b c w) (t : s.Target c w i c₁ w₁)
    (bind : s.pipeline.bind raw i (c₁.attempts + 1) = .ok r)
    (answer : s.balancer.executeOn c₁.service i r w₁.balancer = (reply, b'))
    (after : s.AfterReply p o (w₁.journal.toList ++ [.attempted c₁.service i r]) i
      c₁.recordAttempt reply later)
    (lawful : Everywhere (s.Lawful p service raw b o)
      (w₁.journal.toList ++ [.attempted c₁.service i r]) later) :
    ∃ pre, w₁.journal.toList = w.journal.toList ++ pre ∧
      Everywhere (s.Lawful p service raw b o) w.journal.toList
        (pre ++ .attempted c₁.service i r :: later) ∧
      Opens o c (pre ++ .attempted c₁.service i r :: later) := by
  have service_eq : c₁.service = service := t.service_eq.trans h.service_eq
  refine t.course h ?_ (.cons ⟨service_eq, ?_⟩ lawful)
  · refine ⟨fun f hf => ?_, fun r' hr => ?_⟩
    · cases bind.symm.trans hf
    · cases bind.symm.trans hr
      rw [service_eq]
      exact .call rfl
  · rw [AfterAttempt, ← t.context_eq h, ← t.balancer_eq h]
    subst service_eq
    rw [answer]
    exact ⟨congrArg (· + 1) ((t.context_eq h).symm ▸ Context.replay_attempts), bind, after⟩

/-! ### The whole run -/

/-- **Every run keeps to the law.**  At each entry of its journal what follows is what the entry
and the past call for, up to the outcome. -/
theorem turns_course {limit : Nat} (h : s.Stands service raw b c w)
    (run : s.turns p raw limit c w = some (o, w')) :
    ∃ later, w'.journal.toList = w.journal.toList ++ later ∧
      Everywhere (s.Lawful p service raw b o) w.journal.toList later ∧ Opens o c later := by
  induction limit generalizing c w with
  | zero => cases run
  | succ limit ih =>
      rw [turns] at run
      have turn : s.TurnCase p raw c w (s.turn p raw c w) := turn_case
      generalize s.turn p raw c w = t at *
      cases turn with
      | fired unbound fired =>
          cases run
          exact ⟨[], (List.append_nil _).symm, .nil, .fired unbound ⟨rfl, rfl⟩ rfl⟩
      | @empty b' unbound live choice =>
          cases run
          refine ⟨_, World.toList_addAll, ?_, .chosen unbound (.call rfl)⟩
          refine .cons ⟨h.service_eq, ?_, ⟨rfl, rfl⟩, ?_⟩ (.cons trivial .nil)
          · rw [← h.balancer, ← h.service_eq, choice]
          · rw [h.service_eq]
      | @unaddressable i c₁ w₁ f target bind =>
          cases run
          have reaches : s.Reaches service raw (.error (.connectivity c₁.service f)) i
              (c₁.attempts + 1) [] [.logged (bindFailureLine i (c₁.attempts + 1) f)] := by
            refine ⟨fun f' hf => ?_, fun r hr => ?_⟩
            · cases bind.symm.trans hf
              rw [target.service_eq, h.service_eq]
              exact ⟨⟨rfl, rfl⟩, rfl⟩
            · cases bind.symm.trans hr
          obtain ⟨pre, hpre, lawful, opens⟩ :=
            target.course (p := p) h reaches (.cons trivial .nil)
          refine ⟨_, ?_, lawful, opens⟩
          rw [World.toList_addAll, hpre, List.append_assoc]
      | @attempted i c₁ w₁ r reply b' t target bind answer reaction =>
          have hw : (({ w₁ with balancer := b' } : World σ).addAll
              [.attempted c₁.service i r]).journal.toList =
                w₁.journal.toList ++ [.attempted c₁.service i r] := World.toList_addAll
          rcases t with ⟨c'', w''⟩ | ⟨o', w''⟩
          -- The reply calls for what the next turn opens with, whatever the run then comes to.
          · have bound : c₁.recordAttempt.bound = some i := target.bound_eq
            obtain ⟨es, hes, quiet, after⟩ := reaction.again_reply bound
            have stands : s.Stands service raw b c'' w'' := by
              refine reaction.stands ?_ ?_ bound bind
              · rw [hw, Context.replay_append, ← target.context_eq h]
                rfl
              · rw [hw, Balancer.replay_append, ← target.balancer_eq h]
                exact (congrArg Prod.snd answer).symm
            obtain ⟨later, hlater, lawful, opens⟩ := ih stands run
            rw [hes, hw] at hlater lawful
            rw [hw] at after
            obtain ⟨pre, hpre, lawful, opens⟩ := target.attempt_course (p := p) h bind answer
              (after o later opens)
              (.append (fun e he _ _ => lawful_of_quiet (quiet e he)) lawful)
            refine ⟨_, ?_, lawful, opens⟩
            rw [hlater, hpre]
            simp only [List.append_assoc, List.cons_append, List.nil_append]
          -- The last turn: nothing but its own entries follows the reply.
          · cases run
            obtain ⟨es, hes, quiet, after⟩ := reaction.ended rfl
            rw [hw] at hes after
            obtain ⟨pre, hpre, lawful, opens⟩ := target.attempt_course (p := p) h bind answer
              after (.of_forall fun e he _ _ => lawful_of_quiet (quiet e he))
            refine ⟨_, ?_, lawful, opens⟩
            rw [hes, hpre, List.append_assoc, List.append_assoc, List.singleton_append]

/-- A call that is not bypassed keeps to the law from its first entry on. -/
theorem executeRetrying_course {limit : Nat} {words : Words}
    (retried : s.cancelled (.start b words) = false → p.admits raw.method = true)
    (run : s.executeRetrying limit p service raw (.start b words) = some (o, w)) :
    Everywhere (s.Lawful p service raw b o) [] w.journal.toList ∧
      Opens o (.fresh service) w.journal.toList := by
  cases hf : s.cancelled (.start b words) with
  | true =>
      rw [executeRetrying, if_pos hf] at run
      cases run
      exact ⟨.nil, .fired rfl ⟨rfl, rfl⟩ rfl⟩
  | false =>
      rw [executeRetrying_of_admits hf (retried hf)] at run
      have stands : s.Stands service raw b (.fresh service)
          ((World.start b words).ask [.admits raw.method true]) :=
        ⟨rfl, rfl, fun _ bound => by cases bound⟩
      obtain ⟨later, hlater, lawful, opens⟩ := turns_course stands run
      have asked : Tells [.asked (.admits raw.method true)] [] := Tells.nil.ask
      have hj : w.journal.toList = [.asked (.admits raw.method true)] ++ later := hlater
      rw [hj]
      refine ⟨.append (fun e he _ _ => lawful_of_quiet (asked.quiet e he)) lawful, ?_⟩
      cases opens with
      | kept bound => cases bound
      | chosen unbound continues => exact .chosen unbound (asked.continues_append continues)
      | fired unbound continues outcome =>
          exact .fired unbound (asked.continues_append continues) outcome

end Setup

end Failover
