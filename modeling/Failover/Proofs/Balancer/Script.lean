import Failover.Proofs.Balancer.Operations
import Failover.Proofs.Call.Healthy
import Mathlib.Data.List.Induction

/-!
# Balancers — a script in closed form

Answers from a script are a matter of counting.  How a choice comes out depends on how many choices
were made before it, and how an attempt comes out on how many attempts drew an outcome before it;
neither counts what belongs to the other, however the two are interleaved.

* `Script.choiceAt`, `Script.replyAt`: the answers, by their index.
* `Script.Answered`, `Script.Reached`: what operations are answered with, and what they leave.
* `Script.performAll_closedForm`: every sequence of operations, and every session of calls.
-/

namespace Failover

open Balancer (Op Exchange)

namespace Balancer.Op

/-- An instance is asked for. -/
def isChoice : Op → Bool
  | choose _ => true
  | executeOn .. => false

/-- A request is to be sent to the instance with the given id. -/
def isOn (id : String) : Op → Bool
  | choose _ => false
  | executeOn _ i _ => i.id == id

/-- What is recorded of an operation. -/
def recorded? : Op → Option RecordedAttempt
  | choose _ => none
  | executeOn service i r => some ⟨service, i.id, r⟩

/-- The attempts recorded for an instance are as many as were made on it. -/
theorem countP_recorded {ops : List Op} {id : String} :
    (ops.filterMap recorded?).countP (fun a => a.instanceId == id) = ops.countP (isOn id) := by
  rw [List.countP_filterMap]
  refine List.countP_congr fun op _ => ?_
  cases op <;> simp [recorded?, isOn]

end Balancer.Op

namespace Script

variable {s t : Script} {ops : List Op} {history : List Exchange} {service : String} {i : Instance}
  {r : Request}

/-! ### Answers by their index -/

/-- The choice that comes after `n` others: the scripted one, or what the pool offers in turn. -/
def choiceAt (s : Script) (n : Nat) : Option Instance :=
  match s.choices[n]? with
  | some choice => choice
  | none => if s.pool = [] then none else some (s.offer (n - s.choices.length))

/-- The reply that is drawn after `j` others: what is queued, or status 200. -/
def replyAt (s : Script) (j : Nat) : Except Failure Response :=
  (s.outcomes[j]?.getD (.ok .ok)).map fun status => ⟨status, ""⟩

/-- The reply to an attempt on an instance, where `j` outcomes were drawn before. -/
def replyTo (s : Script) (i : Instance) (j : Nat) : Except Failure Response :=
  match s.failing.get? i.id with
  | some f => .error f
  | none => s.replyAt j

/-- The operation draws an outcome: it is an attempt on an instance that no failure is set for. -/
def draws (s : Script) : Op → Bool
  | .choose _ => false
  | .executeOn _ i _ => (s.failing.get? i.id).isNone

/-- The reply that was drawn, where one was. -/
def drawn? (s : Script) (x : Exchange) : Option (Except Failure Response) :=
  match x with
  | .chose .. => none
  | .executed _ i _ reply => if (s.failing.get? i.id).isNone then some reply else none

/-! ### One operation -/

/-- What a script has become through operations. -/
structure Reached (s : Script) (ops : List Op) (t : Script) : Prop where
  pool : t.pool = s.pool
  failing : t.failing = s.failing
  choices : t.choices = s.choices.drop (ops.countP Op.isChoice)
  /-- Scripted choices do not move on in the pool. -/
  cursor : s.pool ≠ [] →
    t.cursor = s.cursor + (ops.countP Op.isChoice - s.choices.length)
  selections : t.selections = s.selections + ops.countP Op.isChoice
  /-- Attempts on failing instances do not use up outcomes. -/
  outcomes : t.outcomes = s.outcomes.drop (ops.countP s.draws)
  attempts : t.attempts.toList = s.attempts.toList ++ ops.filterMap Op.recorded?

/-- How a script answers operations. -/
structure Answered (s : Script) (ops : List Op) (history : List Exchange) : Prop where
  operations : history.map Exchange.op = ops
  chosen : history.filterMap Exchange.choice? =
    (List.range (ops.countP Op.isChoice)).map s.choiceAt
  drawn : history.filterMap s.drawn? = (List.range (ops.countP s.draws)).map s.replyAt
  failed : ∀ service i r reply f, Exchange.executed service i r reply ∈ history →
    s.failing.get? i.id = some f → reply = .error f

/-- A scripted choice comes before the pool. -/
theorem choose_of_scripted {choice : Option Instance} {later : List (Option Instance)}
    (scripted : t.choices = choice :: later) :
    t.choose = (choice, { t with selections := t.selections + 1, choices := later }) := by
  rw [choose, scripted]

/-- An empty pool offers nothing. -/
theorem choose_of_empty (used : t.choices = []) (empty : t.pool = []) :
    t.choose = (none, { t with selections := t.selections + 1 }) := by
  rw [choose, used, empty]
  rfl

/-- The pool offers its next instance in turn. -/
theorem choose_of_filled (used : t.choices = []) (filled : t.pool ≠ []) :
    t.choose = (some (t.offer 0),
      { t with selections := t.selections + 1, cursor := t.cursor + 1 }) := by
  have filled' : t.pool.isEmpty = false := List.isEmpty_eq_false_iff.mpr filled
  rw [choose, used, filled', ← getElem?_offer filled]
  rfl

theorem countP_choose :
    (ops ++ [Op.choose service]).countP Op.isChoice = ops.countP Op.isChoice + 1 := by
  rw [List.countP_append]
  rfl

/-- The state after one more choice. -/
theorem Reached.chosen {choices : List (Option Instance)} {cursor : Nat} (h : s.Reached ops t)
    (left : choices = s.choices.drop (ops.countP Op.isChoice + 1))
    (moved : s.pool ≠ [] →
      cursor = s.cursor + (ops.countP Op.isChoice + 1 - s.choices.length)) :
    s.Reached (ops ++ [.choose service])
      { t with selections := t.selections + 1, choices := choices, cursor := cursor } where
  pool := h.pool
  failing := h.failing
  choices := by rw [countP_choose]; exact left
  cursor filled := by rw [countP_choose]; exact moved filled
  selections := by rw [countP_choose, h.selections, Nat.add_assoc]
  outcomes := by rw [List.countP_append]; exact h.outcomes
  attempts := by
    rw [List.filterMap_append, h.attempts]
    exact congrArg (s.attempts.toList ++ ·) (List.append_nil _).symm

/-- A choice takes the scripted one, or else it moves on in the pool. -/
theorem Reached.choose (h : s.Reached ops t) (service : String) :
    t.choose.1 = s.choiceAt (ops.countP Op.isChoice) ∧
      s.Reached (ops ++ [.choose service]) t.choose.2 := by
  have choices := h.choices
  unfold choiceAt
  cases scripted : s.choices[ops.countP Op.isChoice]? with
  | some choice =>
      obtain ⟨within, rfl⟩ := List.getElem?_eq_some_iff.mp scripted
      rw [List.drop_eq_getElem_cons within] at choices
      rw [choose_of_scripted choices]
      -- As long as choices are scripted, no place in the pool has been used.
      refine ⟨rfl, h.chosen rfl fun filled => ?_⟩
      rw [h.cursor filled]
      omega
  | none =>
      have used := List.getElem?_eq_none_iff.mp scripted
      rw [List.drop_eq_nil_of_le used] at choices
      have left : t.choices = s.choices.drop (ops.countP Op.isChoice + 1) := by
        rw [choices, List.drop_eq_nil_of_le (Nat.le_succ_of_le used)]
      dsimp only
      by_cases empty : s.pool = []
      · rw [choose_of_empty choices (h.pool.trans empty), if_pos empty]
        exact ⟨rfl, h.chosen left fun filled => absurd empty filled⟩
      · rw [choose_of_filled choices (h.pool ▸ empty), if_neg empty]
        refine ⟨?_, h.chosen left fun filled => ?_⟩
        · rw [offer, offer, h.pool, h.cursor empty, Nat.add_zero, Nat.add_assoc]
        · rw [h.cursor filled]
          omega

/-- A failure that is set for the instance leaves the queue as it is. -/
theorem executeOn_of_failing {f : Failure} (failing : t.failing.get? i.id = some f) :
    t.executeOn service i r =
      (.error f, { t with attempts := t.attempts.push ⟨service, i.id, r⟩ }) := by
  rw [executeOn, nextOutcome, failing]
  rfl

/-- Otherwise the next outcome of the queue is taken. -/
theorem executeOn_of_queued {o : Except Failure Status} {later : List (Except Failure Status)}
    (unset : t.failing.get? i.id = none) (queued : t.outcomes = o :: later) :
    t.executeOn service i r =
      (o.map fun status => ⟨status, ""⟩,
        { t with attempts := t.attempts.push ⟨service, i.id, r⟩, outcomes := later }) := by
  rw [executeOn, nextOutcome, unset, queued]

/-- When the queue is empty the attempt succeeds. -/
theorem executeOn_of_spent (unset : t.failing.get? i.id = none) (spent : t.outcomes = []) :
    t.executeOn service i r =
      (.ok ⟨.ok, ""⟩, { t with attempts := t.attempts.push ⟨service, i.id, r⟩ }) := by
  rw [executeOn, nextOutcome, unset, spent]
  rfl

/-- The state after one more attempt. -/
theorem Reached.recorded {outcomes : List (Except Failure Status)} (h : s.Reached ops t)
    (left : outcomes = s.outcomes.drop ((ops ++ [Op.executeOn service i r]).countP s.draws)) :
    s.Reached (ops ++ [.executeOn service i r])
      { t with attempts := t.attempts.push ⟨service, i.id, r⟩, outcomes := outcomes } where
  pool := h.pool
  failing := h.failing
  choices := by rw [List.countP_append]; exact h.choices
  cursor filled := by rw [List.countP_append]; exact h.cursor filled
  selections := by rw [List.countP_append]; exact h.selections
  outcomes := left
  attempts := by
    rw [List.filterMap_append, Array.toList_push, h.attempts, List.append_assoc]
    rfl

theorem countP_executeOn :
    (ops ++ [Op.executeOn service i r]).countP s.draws =
      ops.countP s.draws + if (s.failing.get? i.id).isNone then 1 else 0 := by
  rw [List.countP_append, List.countP_singleton]
  rfl

/-- An attempt fails as it is set to, or else it draws an outcome; it is recorded in any case. -/
theorem Reached.executeOn (h : s.Reached ops t) (service : String) (i : Instance) (r : Request) :
    (t.executeOn service i r).1 = s.replyTo i (ops.countP s.draws) ∧
      s.Reached (ops ++ [.executeOn service i r]) (t.executeOn service i r).2 := by
  unfold replyTo
  have outcomes := h.outcomes
  have counted : (ops ++ [Op.executeOn service i r]).countP s.draws = _ := countP_executeOn
  cases set : s.failing.get? i.id with
  | some f =>
      rw [executeOn_of_failing (h.failing ▸ set)]
      rw [set] at counted
      exact ⟨rfl, h.recorded (by rw [counted]; exact outcomes)⟩
  | none =>
      rw [set] at counted
      unfold replyAt
      cases queued : s.outcomes[ops.countP s.draws]? with
      | some o =>
          obtain ⟨within, rfl⟩ := List.getElem?_eq_some_iff.mp queued
          rw [List.drop_eq_getElem_cons within] at outcomes
          rw [executeOn_of_queued (h.failing ▸ set) outcomes]
          exact ⟨rfl, h.recorded (by rw [counted]; rfl)⟩
      | none =>
          have all := List.getElem?_eq_none_iff.mp queued
          rw [List.drop_eq_nil_of_le all] at outcomes
          rw [executeOn_of_spent (h.failing ▸ set) outcomes]
          refine ⟨rfl, h.recorded ?_⟩
          rw [counted, outcomes]
          exact (List.drop_eq_nil_of_le (Nat.le_succ_of_le all)).symm

/-! ### One operation after another -/

theorem Reached.refl : s.Reached [] s :=
  ⟨rfl, rfl, rfl, fun _ => by simp, rfl, rfl, by simp⟩

theorem Answered.nil : s.Answered [] [] :=
  ⟨rfl, rfl, rfl, fun _ _ _ _ _ mem => absurd mem List.not_mem_nil⟩

/-- The answers with one more choice. -/
theorem Answered.chose (h : s.Answered ops history) (service : String) :
    s.Answered (ops ++ [.choose service])
      (history ++ [.chose service (s.choiceAt (ops.countP Op.isChoice))]) where
  operations := by rw [List.map_append, h.operations]; rfl
  chosen := by
    rw [List.filterMap_append, h.chosen, countP_choose, List.range_succ, List.map_append]
    rfl
  drawn := by
    rw [List.filterMap_append, h.drawn, List.countP_append]
    exact List.append_nil _
  failed service i r reply f mem set := by
    refine (List.mem_append.mp mem).elim (h.failed service i r reply f · set) fun last => ?_
    cases List.mem_singleton.mp last

/-- The answers with one more attempt. -/
theorem Answered.executed (h : s.Answered ops history) (service : String) (i : Instance)
    (r : Request) :
    s.Answered (ops ++ [.executeOn service i r])
      (history ++ [.executed service i r (s.replyTo i (ops.countP s.draws))]) where
  operations := by rw [List.map_append, h.operations]; rfl
  chosen := by
    rw [List.filterMap_append, h.chosen, List.countP_append]
    exact List.append_nil _
  drawn := by
    rw [List.filterMap_append, h.drawn, countP_executeOn]
    cases set : s.failing.get? i.id with
    | some f =>
        have undrawn (reply : Except Failure Response) :
            [Exchange.executed service i r reply].filterMap s.drawn? = [] := by
          simp [drawn?, set]
        rw [undrawn]
        exact List.append_nil _
    | none =>
        have drawn (reply : Except Failure Response) :
            [Exchange.executed service i r reply].filterMap s.drawn? = [reply] := by
          simp [drawn?, set]
        rw [drawn, replyTo, set]
        exact (List.range_succ ▸ List.map_append).symm
  failed service' i' r' reply f mem set := by
    refine (List.mem_append.mp mem).elim (h.failed service' i' r' reply f · set) fun last => ?_
    cases List.mem_singleton.mp last
    rw [replyTo, set]

/-- Operations reach the state, and get the answers, that their number calls for. -/
theorem performAll_reached (s : Script) (ops : List Op) (atomic : Bool) :
    s.Answered ops ((Balancer.scripted atomic).performAll s ops).1 ∧
      s.Reached ops ((Balancer.scripted atomic).performAll s ops).2 := by
  -- The answer to an operation counts what came before it, so the list grows at its end.
  induction ops using List.reverseRecOn with
  | nil => exact ⟨.nil, .refl⟩
  | append_singleton ops op ih =>
      obtain ⟨answered, reached⟩ := ih
      rw [Balancer.performAll_concat]
      cases op with
      | choose service =>
          obtain ⟨answer, reached⟩ := reached.choose service
          have step := answered.chose service
          rw [← answer] at step
          exact ⟨step, reached⟩
      | executeOn service i r =>
          obtain ⟨answer, reached⟩ := reached.executeOn service i r
          have step := answered.executed service i r
          rw [← answer] at step
          exact ⟨step, reached⟩

/-- Operations, their answers and the script they lead to are a matter of counting. -/
structure ClosedForm (s : Script) (ops : List Op) (history : List Exchange) (t : Script) : Prop
    extends s.Answered ops history, s.Reached ops t where
  attemptsOn : ∀ id, t.attemptsOn id = s.attemptsOn id + ops.countP (Op.isOn id)

/-- The closed form holds after any operations. -/
theorem closedForm (s : Script) (ops : List Op) (atomic : Bool) :
    s.ClosedForm ops ((Balancer.scripted atomic).performAll s ops).1
      ((Balancer.scripted atomic).performAll s ops).2 := by
  obtain ⟨answered, reached⟩ := performAll_reached s ops atomic
  refine ⟨answered, reached, fun id => ?_⟩
  rw [Script.attemptsOn, ← Array.countP_toList, reached.attempts, List.countP_append,
    Op.countP_recorded, Array.countP_toList]
  rfl

/-- **A scripted balancer is a closed form of its script**, over any interleaving of choices and
attempts, and over any session of calls.  The choice after `n` others is the scripted one, or what
the pool offers in turn; an attempt on a failing instance fails as it is set to, and the attempt
after `j` others that draw an outcome draws the queued one, or status 200. -/
theorem performAll_closedForm (s : Script) :
    (∀ ops atomic, s.ClosedForm ops ((Balancer.scripted atomic).performAll s ops).1
        ((Balancer.scripted atomic).performAll s ops).2) ∧
      ∀ (calls : List (Session.Call Script)) (session session' : Session Script)
          (reports : List Report),
        (∀ c ∈ calls, c.setup.balancer = .scripted false) → session.balancer = s →
        session.runAll calls = some (reports, session') →
        let ops := reports.flatMap (·.journal.operations)
        let history := ((Balancer.scripted false).performAll s ops).1
        s.ClosedForm ops history session'.balancer ∧
          reports.flatMap (·.journal.choices) = history.filterMap Exchange.choice? := by
  refine ⟨closedForm s, fun calls session session' reports shared start run => ?_⟩
  obtain ⟨balancer, choices⟩ := Session.Call.runAll_performs rfl shared run
  rw [start] at balancer choices
  exact ⟨balancer ▸ closedForm s _ false, choices⟩

/-- Two plain calls and one that fails over, with a choice scripted for each of the plain ones.  The
choices from the pool begin at its start, and the attempt on the failing instance leaves the queued
outcome to the next. -/
theorem performAll_closedForm_interleaved :
    let policy : Policy := .ofConfigured ⟨.default, none, none, rfl, rfl⟩
    let plain : Session.Call Script := ⟨.plain, .sample .never, "users", .sample⟩
    let retrying : Session.Call Script :=
      ⟨.retrying (.ofFallback policy), .sample .never, "users", .sample⟩
    let s : Script :=
      { Script.sample [.error ⟨.reset, "closed"⟩, .ok { code := 404 }] with
        choices := [some (.sample "b"), none]
        failing := OrderedMap.empty.insert "a" ⟨.timeout, "slow"⟩ }
    let session : Session Script := ⟨s, .constant 0, .ofCapacity 9⟩
    ∃ reports session' history,
      session.runAll [plain, plain, retrying] = some (reports, session') ∧
      s.ClosedForm (reports.flatMap (·.journal.operations)) history session'.balancer ∧
      (history.filterMap Exchange.choice?).map (·.map (·.id)) =
        [some "b", none, some "a", some "b"] ∧
      session'.balancer.attempts.toList.map (·.instanceId) = ["b", "a", "b"] ∧
      session'.balancer.outcomes = [] := by
  intro policy plain retrying s session
  have made : (session.runAll [plain, plain, retrying]).map (fun x =>
      ((x.1.flatMap (·.journal.choices)).map (·.map (·.id)),
        x.2.balancer.attempts.toList.map (·.instanceId), x.2.balancer.outcomes.length)) =
      some ([some "b", none, some "a", some "b"], ["b", "a", "b"], 0) := by
    decide +kernel
  obtain ⟨⟨reports, session'⟩, run, facts⟩ := Option.map_eq_some_iff.mp made
  obtain ⟨offered, facts⟩ := Prod.mk.inj facts
  obtain ⟨attempts, outcomes⟩ := Prod.mk.inj facts
  obtain ⟨-, sessions⟩ := performAll_closedForm s
  obtain ⟨closed, choices⟩ :=
    sessions [plain, plain, retrying] session session' reports
      (by simp [plain, retrying, Setup.sample]) rfl run
  rw [choices] at offered
  exact ⟨reports, session', _, run, closed, offered, attempts,
    List.eq_nil_of_length_eq_zero outcomes⟩

end Script

end Failover
