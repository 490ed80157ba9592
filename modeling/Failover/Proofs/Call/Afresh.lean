import Failover.Proofs.Call.Bypass
import Failover.Proofs.Call.Course
import Mathlib.Data.List.Forall2

/-!
# Calls — every attempt is bound afresh

What the transport gets in an attempt is the request of the call, bound to the instance that the
balancer gave last, under the attempt's number within the call.  Nothing of an earlier attempt or of
another call is left in it, since none of them occurs in it.

A balancer may keep a record of what it is asked to send.  Over a session of calls the record grows
by the attempts of each call in turn, the first of them numbered 1.

* `Setup.Afresh`: what holds at an attempt.
* `Client.execute_afresh`: it does at every attempt of every call.
* `Client.execute_keeps`: the record of a call.
* `Session.Call.runAll_afresh`: the record of a session.
-/

namespace Failover

/-! ### The instance that is bound -/

namespace Context

variable {c : Context} {e : Entry} {es : List Entry} {i : Instance}

/-- The instance that is bound after an entry was given by it, or bound before. -/
theorem bound_follow (h : (c.follow e).bound = some i) :
    (Journal.givenOf? e).or c.bound = some i := by
  rcases e with ⟨_, _ | j⟩ | _ | _ | _ | ⟨_ | _ | ⟨_, _ | _, _⟩ | _ | _ | _⟩ | _ | _ | _ <;>
    first | exact h | cases h

theorem bound_foldl_follow (h : (es.foldl follow c).bound = some i) :
    ((es.filterMap Journal.givenOf?).getLast?).or c.bound = some i := by
  induction es generalizing c with
  | nil => exact h
  | cons e es ih =>
      -- The last choice is among the later entries, or there is none and it is this entry's.
      have later := ih h
      rw [← List.singleton_append, List.filterMap_append, List.getLast?_append, Option.or_assoc]
      cases hes : (es.filterMap Journal.givenOf?).getLast? with
      | some j =>
          rw [hes] at later
          exact later
      | none =>
          rw [hes, Option.none_or] at later
          rw [Option.none_or]
          have here := bound_follow later
          cases he : Journal.givenOf? e with
          | none =>
              rw [he] at here
              simpa [he] using here
          | some j =>
              rw [he] at here
              simpa [he] using here

/-- The instance that a call is bound to is the one that the balancer gave last. -/
theorem getLast?_given {service : String} (h : (replay service es).bound = some i) :
    (Journal.ofList es).given.getLast? = some i := by
  have := bound_foldl_follow h
  rwa [fresh, Option.or_none] at this

end Context

namespace Setup

variable {σ : Type} {s : Setup σ} {p : Policy} {service : String} {raw : Request} {b : σ}
  {o : Outcome} {w : World σ} {past later tail : List Entry} {e x : Entry} {events : List Event}
  {words : Words} {limit : Nat}

/-- The next call of the balancer, if it is an attempt, is one on the bound instance. -/
def OnBound (c : Context) : Entry → Prop
  | .attempted _ i _ => c.bound = some i
  | _ => True

theorem onBound_of_quiet (h : e.isCall = false) : OnBound c e := by
  cases e <;> trivial

/-- A choice binds the instance of the attempt that follows, and an attempt leaves it bound unless a
choice follows. -/
theorem Onward.onBound (bound : OnBound (.replay service past) e)
    (h : s.Onward p service raw b o past e events x) :
    OnBound (events.foldl Context.hear (.replay service (past ++ [e]))) x := by
  rw [Context.replay_append, List.foldl_cons, List.foldl_nil]
  cases h with
  | chosen bind => rfl
  | retried counted verdict move after =>
      cases after with
      | same move =>
          simp only [List.foldl_cons, List.foldl_nil, Context.hear, move, decide_true]
          exact bound
      | next move => trivial

/-- Every attempt of a retrying call is on the bound instance. -/
theorem Opens.onBound (opens : Opens o (.fresh service) later)
    (lawful : Everywhere (s.Lawful p service raw b o) [] later) :
    Everywhere (fun past e _ => OnBound (.replay service past) e) [] later := by
  refine lawful_everywhere (P := OnBound) (fun _ _ => onBound_of_quiet)
    (fun _ _ _ _ bound onward => onward.onBound bound) lawful
    fun events x continues => ?_
  cases opens with
  | kept bound => cases bound
  | chosen unbound continues' =>
      obtain ⟨rfl, hx⟩ := continues'.unique continues
      obtain rfl := Option.some.inj hx
      trivial
  | fired unbound continues' => cases (continues'.unique continues).2

/-! ### At every attempt -/

/-- An attempt is made on the instance that the balancer gave last, and sends what the request of
the call is bound to under the attempt's number. -/
def Afresh (s : Setup σ) (service : String) (raw : Request) (past : List Entry) : Entry → Prop
  | .attempted service' i r =>
    service' = service ∧ (Journal.ofList past).given.getLast? = some i ∧
      s.pipeline.bind raw i ((Journal.ofList past).attempts.length + 1) = .ok r
  | _ => True

/-- Every attempt among the entries of a call is made afresh. -/
abbrev AllAfresh (s : Setup σ) (service : String) (raw : Request) (past later : List Entry) :
    Prop :=
  Everywhere (fun past e _ => s.Afresh service raw past e) past later

theorem allAfresh_of_quiet (h : ∀ e ∈ later, e.isCall = false) :
    s.AllAfresh service raw past later := by
  refine .of_forall fun e he past rest => ?_
  have quiet := h e he
  cases e <;> trivial

/-- The only attempt of a combined call is the first. -/
theorem Once.afresh (h : s.Once service raw o tail) (first : (Journal.ofList past).attempts = []) :
    s.AllAfresh service raw past tail := by
  cases h with
  | own => exact .nil
  | empty => exact .cons trivial .nil
  | unaddressable bind => exact .cons trivial (.cons trivial .nil)
  | attempted bind =>
      refine .cons trivial (.cons ⟨rfl, ?_, ?_⟩ .nil)
      · rw [Journal.given, Journal.toList_ofList, List.filterMap_append, List.getLast?_append]
        rfl
      · rw [Journal.attempts_of_append Journal.toList_ofList, first]
        exact bind

/-- A call that is made once makes its attempt afresh, whatever is noted before and after. -/
theorem Once.afresh_noted {pre post : List Entry} (h : s.Once service raw o tail)
    (hpre : ∀ e ∈ pre, e.isCall = false) (hpost : ∀ e ∈ post, e.isCall = false) :
    s.AllAfresh service raw [] (pre ++ .combined service :: (tail ++ post)) := by
  have noted : Tells pre (Journal.eventsIn pre) := ⟨hpre, rfl⟩
  refine (allAfresh_of_quiet hpre).extend (.cons trivial (.extend (h.afresh ?_) ?_))
  · rw [Journal.attempts_of_append Journal.toList_ofList, List.nil_append, noted.attempts]
    rfl
  · exact allAfresh_of_quiet hpost

/-- A plain call binds the raw request. -/
theorem executePlain_afresh :
    s.AllAfresh service raw []
      (s.executePlain (.start b words) service raw).2.journal.toList := by
  obtain ⟨tail, htail, once⟩ : ∃ tail,
      (s.executeOnce (.start b words) service raw).2.journal.toList = .combined service :: tail ∧
        s.Once service raw (s.executeOnce (.start b words) service raw).1 tail := executeOnce_once
  unfold executePlain
  rcases h : s.executeOnce (.start b words) service raw with ⟨e | response, w₁⟩
  · rw [h] at htail
    have made : s.AllAfresh service raw [] ([] ++ .combined service :: (tail ++ [])) :=
      once.afresh_noted (List.forall_mem_nil _) (List.forall_mem_nil _)
    rwa [List.append_nil, List.nil_append, ← htail] at made
  · rw [h] at htail
    dsimp only
    rw [emit_eq, World.log_addAll, World.toList_addAll, htail]
    have unnoted : ∀ e ∈ ([] : List Entry), e.isCall = false := List.forall_mem_nil _
    exact once.afresh_noted unnoted Tells.emission.log.quiet

/-- So does every attempt of a call with retries. -/
theorem executeRetrying_afresh
    (run : s.executeRetrying limit p service raw (.start b words) = some (o, w)) :
    s.AllAfresh service raw [] w.journal.toList := by
  -- A bypassed call has no turns, and so no course: its only attempt is that of a combined call.
  by_cases retried : s.cancelled (.start b words) = false → p.admits raw.method = true
  · obtain ⟨lawful, opens⟩ := executeRetrying_course retried run
    have bound := opens.onBound lawful
    intro past e rest hj
    cases e with
    | attempted service' i r =>
        obtain ⟨hs, ordinal, bind, -⟩ := lawful past _ rest hj
        rw [List.nil_append] at ordinal bind
        rw [ordinal] at bind
        exact ⟨hs, Context.getLast?_given (bound past _ rest hj), bind⟩
    | _ => trivial
  · obtain ⟨live, refused⟩ := Classical.not_imp.mp retried
    rw [executeRetrying_of_refuses live (Bool.eq_false_iff.mpr refused)] at run
    obtain ⟨pre, tail, hj, notes, once⟩ := bypass_once (Option.some.inj run)
    have hj : w.journal.toList =
        (.asked (.admits raw.method false) :: pre) ++ .combined service :: tail := hj
    rw [hj]
    have noted : ∀ e ∈ .asked (.admits raw.method false) :: pre, e.isCall = false :=
      List.forall_mem_cons.mpr ⟨rfl, fun e he => Entry.isCall_of_isNote (notes e he)⟩
    have unnoted : ∀ e ∈ ([] : List Entry), e.isCall = false := List.forall_mem_nil _
    have made := once.afresh_noted noted unnoted
    rwa [List.append_nil] at made

end Setup

/-! ### The record of a balancer -/

/-- What is recorded of an attempt. -/
def RecordedAttempt.of : String × Instance × Request → RecordedAttempt
  | (service, i, r) => ⟨service, i.id, r⟩

/-- A balancer keeps a record of what it is asked to send, and of nothing else. -/
structure Balancer.Records {σ : Type} (B : Balancer σ) (record : σ → List RecordedAttempt) :
    Prop where
  choose : ∀ service b, record (B.choose service b).2 = record b
  executeOn : ∀ service i r b,
    record (B.executeOn service i r b).2 = record b ++ [.of (service, i, r)]

/-- The scripted balancer does. -/
theorem Balancer.scripted_records {atomic : Bool} :
    (Balancer.scripted atomic).Records (·.attempts.toList) where
  choose service b := by
    change b.choose.2.attempts.toList = _
    unfold Script.choose
    dsimp only
    split
    · rfl
    · split <;> rfl
  executeOn service i r b := by
    change (b.executeOn service i r).2.attempts.toList = _
    unfold Script.executeOn Script.nextOutcome
    dsimp only
    split
    · exact Array.toList_push
    · split <;> exact Array.toList_push

namespace Setup

variable {σ : Type} {s : Setup σ} {p : Policy} {service : String} {raw : Request} {b : σ}
  {o : Outcome} {c c₁ : Context} {w w₁ w₂ w' : World σ} {i : Instance} {limit : Nat}
  {record : σ → List RecordedAttempt}

/-- From one world to another the record grew by the attempts that were entered. -/
def Keeps (record : σ → List RecordedAttempt) (w w' : World σ) : Prop :=
  ∃ made, w'.journal.attempts = w.journal.attempts ++ made ∧
    record w'.balancer = record w.balancer ++ made.map .of

theorem Keeps.trans (h : Keeps record w w₁) (h' : Keeps record w₁ w₂) : Keeps record w w₂ := by
  obtain ⟨made, attempts, grown⟩ := h
  obtain ⟨made', attempts', grown'⟩ := h'
  refine ⟨made ++ made', ?_, ?_⟩
  · rw [attempts', attempts, List.append_assoc]
  · rw [grown', grown, List.map_append, List.append_assoc]

/-- Neither grows where nothing is sent. -/
theorem Keeps.of_eq (attempts : w'.journal.attempts = w.journal.attempts)
    (same : record w'.balancer = record w.balancer) : Keeps record w w' :=
  ⟨[], by rw [attempts, List.append_nil], by rw [same, List.map_nil, List.append_nil]⟩

variable (records : s.balancer.Records record)
include records

theorem Target.keeps (t : s.Target c w i c₁ w₁) : Keeps record w w₁ := by
  cases t with
  | kept bound => exact .of_eq rfl rfl
  | chosen unbound live choice =>
      refine .of_eq ?_ ?_
      · exact (Target.chosen unbound live choice).journal_attempts
      · rw [World.balancer_addAll, ← records.choose c.service w.balancer, choice]

/-- A turn leaves the record of attempts as its journal does. -/
theorem turn_keeps : Keeps record w (s.turn p raw c w).world := by
  have turn : s.TurnCase p raw c w (s.turn p raw c w) := turn_case
  generalize s.turn p raw c w = t at *
  cases turn with
  | fired unbound fired => exact .of_eq rfl rfl
  | empty unbound live choice =>
      refine .of_eq ?_ ?_
      · exact World.attempts_addAll.trans (List.append_nil _)
      · exact (congrArg (fun x => record x.2) choice).symm.trans (records.choose _ _)
  | unaddressable target bind =>
      exact (target.keeps records).trans (.of_eq (Tells.nil.log.journal_attempts) rfl)
  | @attempted i c₁ w₁ r reply b' t target bind answer reaction =>
      have sent : Keeps record w₁
          (({ w₁ with balancer := b' } : World σ).addAll [.attempted c₁.service i r]) := by
        refine ⟨[(c₁.service, i, r)], World.attempts_addAll, ?_⟩
        have := records.executeOn c₁.service i r w₁.balancer
        rw [answer] at this
        exact this
      refine ((target.keeps records).trans sent).trans (.of_eq reaction.journal_attempts ?_)
      obtain ⟨words, es, events, -, ht⟩ := reaction.tells
      rw [ht]
      rfl

/-- So do the turns of a call. -/
theorem turns_keeps (run : s.turns p raw limit c w = some (o, w')) : Keeps record w w' := by
  induction limit generalizing c w with
  | zero => cases run
  | succ limit ih =>
      rw [turns] at run
      have step : Keeps record w (s.turn p raw c w).world := turn_keeps records
      generalize s.turn p raw c w = t at *
      rcases t with ⟨c', w₁⟩ | ⟨o', w₁⟩
      · exact step.trans (ih run)
      · cases run
        exact step

end Setup

/-- Without a way of its own a combined call is recorded as it is made. -/
theorem Balancer.Records.once {σ : Type} {B : Balancer σ} {record : σ → List RecordedAttempt}
    (h : B.Records record) (default : B.combined = none) {pipeline : Pipeline} {service : String}
    {raw : Request} {b : σ} :
    record (B.once pipeline service raw b).balancer =
      record b ++ (B.once pipeline service raw b).attempts.map .of := by
  have hchoose := h.choose service b
  rcases choice : B.choose service b with ⟨_ | i, b₁⟩
  · rw [choice] at hchoose
    rw [once_of_none default choice]
    exact hchoose.trans (List.append_nil _).symm
  · rw [choice] at hchoose
    cases bind : pipeline.bind raw i 1 with
    | error f =>
        rw [once_of_unaddressable default choice bind]
        exact hchoose.trans (List.append_nil _).symm
    | ok r =>
        have hexecute := h.executeOn service i r b₁
        rcases answer : B.executeOn service i r b₁ with ⟨reply, b₂⟩
        rw [answer] at hexecute
        rw [once_of_answer default choice bind answer, ← hchoose]
        exact hexecute

section

variable {σ : Type} {s : Setup σ} {p : Policy} {service : String} {raw : Request} {o : Outcome}
  {w w' : World σ} {record : σ → List RecordedAttempt}

/-- A call that is made once is recorded as it is made. -/
theorem Setup.Flat.Gives.keeps {x : Outcome × World σ} (records : s.balancer.Records record)
    (default : s.balancer.combined = none)
    (h : (s.balancer.once s.pipeline service raw w.balancer).Gives w x) :
    Setup.Keeps record w x.2 :=
  ⟨_, h.agrees.attempts, by rw [h.agrees.balancer, records.once default]⟩

/-- **Every call is recorded as it is made.** -/
theorem Client.execute_keeps {client : Client} (records : s.balancer.Records record)
    (default : s.balancer.combined = none)
    (run : client.execute s service raw w = some (o, w')) : Setup.Keeps record w w' := by
  cases client with
  | plain =>
      rw [execute] at run
      have made : Setup.Keeps record w (s.executePlain w service raw).2 :=
        Setup.executePlain_gives.keeps records default
      rwa [Option.some.inj run] at made
  | retrying registry =>
      rw [execute] at run
      cases fired : s.cancelled w with
      | true =>
          rw [Setup.executeRetrying, if_pos fired] at run
          cases run
          exact .of_eq rfl rfl
      | false =>
          have asked (answer : Bool) : Setup.Keeps record w (w.ask [.admits raw.method answer]) :=
            .of_eq Tells.asked.journal_attempts rfl
          cases admits : (registry.policyFor service).admits raw.method with
          | true =>
              rw [Setup.executeRetrying_of_admits fired admits] at run
              exact (asked true).trans (Setup.turns_keeps records run)
          | false =>
              rw [Setup.executeRetrying_of_refuses fired admits] at run
              have made : Setup.Keeps record (w.ask [.admits raw.method false])
                  (s.bypass (registry.policyFor service) service raw
                    (w.ask [.admits raw.method false])).2 :=
                Setup.bypass_gives.keeps records default
              rw [Option.some.inj run] at made
              exact (asked false).trans made

/-- **Every attempt of every call is made afresh.** -/
theorem Client.execute_afresh {client : Client} {b : σ} {words : Words}
    (run : client.execute s service raw (.start b words) = some (o, w)) :
    s.AllAfresh service raw [] w.journal.toList := by
  cases client with
  | plain =>
      have made : s.AllAfresh service raw []
          (s.executePlain (.start b words) service raw).2.journal.toList :=
        Setup.executePlain_afresh
      rwa [Option.some.inj run] at made
  | retrying registry => exact Setup.executeRetrying_afresh run

end

/-! ### Sessions -/

theorem Journal.attempts_cons {e : Entry} {es : List Entry} :
    (ofList (e :: es)).attempts = (ofList [e]).attempts ++ (ofList es).attempts := by
  rw [← List.singleton_append]
  exact attempts_of_append rfl

/-- The attempt with a given number is entered where as many were made before. -/
theorem Journal.exists_attempted {es : List Entry} {k : Nat} {service : String} {i : Instance}
    {r : Request} (h : (ofList es).attempts[k]? = some (service, i, r)) :
    ∃ past rest, es = past ++ .attempted service i r :: rest ∧
      (ofList past).attempts.length = k := by
  induction es generalizing k with
  | nil => cases h
  | cons e es ih =>
      rw [attempts_cons] at h
      cases he : attemptOf? e with
      | none =>
          have none_here : (ofList [e]).attempts = [] := by simp [attempts, he]
          rw [none_here, List.nil_append] at h
          obtain ⟨past, rest, rfl, hk⟩ := ih h
          refine ⟨e :: past, rest, rfl, ?_⟩
          rw [attempts_cons, none_here]
          exact hk
      | some a =>
          have one_here : (ofList [e]).attempts = [a] := by simp [attempts, he]
          rw [one_here] at h
          cases k with
          | zero =>
              obtain rfl := Option.some.inj h
              refine ⟨[], es, ?_, rfl⟩
              cases e <;> cases he
              rfl
          | succ k =>
              obtain ⟨past, rest, rfl, hk⟩ := ih h
              refine ⟨e :: past, rest, rfl, ?_⟩
              rw [attempts_cons, one_here, List.length_append, hk]
              exact Nat.add_comm 1 k

/-- What a call adds to the record of its balancer. -/
def Report.block (r : Report) : List RecordedAttempt := r.journal.attempts.map .of

namespace Session

variable {σ : Type}

namespace Call

/-- Every attempt that a call has added to the record is made on the instance that the balancer gave
last before it, and sends the request of the call as it is bound to that instance under the number
of the attempt; the numbers are 1, 2, 3, and so on. -/
def MadeAfresh (c : Call σ) (report : Report) : Prop :=
  ∀ k a, report.block[k]? = some a → ∃ past i r rest,
    report.journal.toList = past ++ .attempted c.service i r :: rest ∧
    (Journal.ofList past).attempts.length = k ∧
    (Journal.ofList past).given.getLast? = some i ∧
    c.setup.pipeline.bind c.raw i (k + 1) = .ok r ∧
    a = ⟨c.service, i.id, r⟩

theorem madeAfresh {c : Call σ} {report : Report}
    (h : c.setup.AllAfresh c.service c.raw [] report.journal.toList) : c.MadeAfresh report := by
  intro k a ha
  rw [Report.block, List.getElem?_map, Option.map_eq_some_iff] at ha
  obtain ⟨⟨service, i, r⟩, ha, rfl⟩ := ha
  obtain ⟨past, rest, hj, hk⟩ : ∃ past rest, report.journal.toList =
      past ++ .attempted service i r :: rest ∧ (Journal.ofList past).attempts.length = k :=
    Journal.exists_attempted ha
  obtain ⟨rfl, given, bind⟩ := h past _ rest hj
  rw [List.nil_append] at given bind
  rw [hk] at bind
  exact ⟨past, i, r, rest, hj, hk, given, bind, rfl⟩

/-- A session that goes on is one call and the rest of it. -/
theorem runAll_cons {c : Call σ} {cs : List (Call σ)} {session session' : Session σ}
    {reports : List Report} (run : session.runAll (c :: cs) = some (reports, session')) :
    ∃ o w later, ∃ next : Session σ, c.client.execute c.setup c.service c.raw
        (.start session.balancer session.words) = some (o, w) ∧ next.balancer = w.balancer ∧
      next.runAll cs = some (later, session') ∧ reports = ⟨o, w.journal⟩ :: later := by
  rw [runAll, Session.run] at run
  cases hw : c.client.execute c.setup c.service c.raw (.start session.balancer session.words) with
  | none =>
      rw [hw] at run
      cases run
  | some x =>
      obtain ⟨o, w⟩ := x
      rw [hw] at run
      dsimp only at run
      split at run
      · cases run
      · rename_i later session'' hlater
        cases run
        exact ⟨o, w, later, _, rfl, rfl, hlater, rfl⟩

/-- **Over any session the transport sees nothing but fresh bindings.**  Whatever client makes each
of the calls, the balancer's record grows by one block for each call, in order, and every entry of a
block is the request of its own call, bound to the instance given last, numbered from 1. -/
theorem runAll_afresh {B : Balancer σ} {record : σ → List RecordedAttempt} {calls : List (Call σ)}
    {session session' : Session σ} {reports : List Report} (default : B.combined = none)
    (records : B.Records record) (shared : ∀ c ∈ calls, c.setup.balancer = B)
    (run : session.runAll calls = some (reports, session')) :
    record session'.balancer = record session.balancer ++ reports.flatMap Report.block ∧
      List.Forall₂ MadeAfresh calls reports := by
  induction calls generalizing session reports with
  | nil =>
      cases run
      exact ⟨(List.append_nil _).symm, .nil⟩
  | cons c cs ih =>
      obtain ⟨o, w, later, next, hw, hnext, hlater, rfl⟩ := runAll_cons run
      obtain ⟨grown, afresh⟩ := ih (fun c hc => shared c (List.mem_cons_of_mem _ hc)) hlater
      have hB : c.setup.balancer = B := shared c List.mem_cons_self
      obtain ⟨made, attempts, kept⟩ := Client.execute_keeps (hB ▸ records) (hB ▸ default) hw
      refine ⟨?_, .cons (madeAfresh (Client.execute_afresh hw)) afresh⟩
      have block : Report.block ⟨o, w.journal⟩ = made.map .of :=
        congrArg (List.map RecordedAttempt.of) attempts
      rw [grown, hnext, kept, List.flatMap_cons, block, List.append_assoc]
      rfl

/-- A call that fails over, a write that is made once, and another call, all through one client that
lengthens the body: each attempt is numbered within its call, and the body is lengthened once. -/
theorem runAll_afresh_failover :
    let policy : Policy := .ofConfigured ⟨.default, none, none, rfl, rfl⟩
    let setup : Setup Script := { Setup.sample .never with pipeline := .ofEdits [.bodySuffix "!"] }
    let call (m : Method) : Call Script :=
      ⟨.retrying (.ofFallback policy), setup, "users", { Request.sample with method := m }⟩
    let calls := [call .get, call .post, call .get]
    let session : Session Script :=
      ⟨.sample [.error ⟨.reset, "closed"⟩], .constant 0, .ofCapacity 9⟩
    ∃ reports session', session.runAll calls = some (reports, session') ∧
      session'.balancer.attempts.toList.map (fun a => (a.instanceId, a.request.attempt)) =
        [("a", 1), ("b", 2), ("a", 1), ("b", 1)] ∧
      session'.balancer.attempts.toList.map (·.request.body) = ["!", "!", "!", "!"] ∧
      session'.balancer.attempts.toList = reports.flatMap Report.block ∧
      List.Forall₂ MadeAfresh calls reports := by
  intro policy setup call calls session
  have recorded : (session.runAll calls).map (fun x =>
      (x.2.balancer.attempts.toList.map fun a => (a.instanceId, a.request.attempt),
        x.2.balancer.attempts.toList.map (·.request.body))) =
      some ([("a", 1), ("b", 2), ("a", 1), ("b", 1)], ["!", "!", "!", "!"]) := by
    decide +kernel
  obtain ⟨⟨reports, session'⟩, run, attempts⟩ := Option.map_eq_some_iff.mp recorded
  have records : (Balancer.scripted false).Records (·.attempts.toList) := Balancer.scripted_records
  obtain ⟨grown, afresh⟩ :=
    runAll_afresh rfl records (by simp [calls, call, setup, Setup.sample]) run
  obtain ⟨ids, bodies⟩ := Prod.mk.inj attempts
  exact ⟨reports, session', run, ids, bodies, grown, afresh⟩

end Call

end Session

end Failover
