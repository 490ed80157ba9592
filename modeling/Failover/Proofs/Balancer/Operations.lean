import Failover.Proofs.Call.Afresh

/-!
# Balancers — what they are asked for

A balancer is asked for two things: to offer an instance, and to send a request to one.  Its answers
depend on what it was asked before and on nothing else.  So a call, and a session of calls, leaves a
balancer as the operations in the journals leave it when they are put to it one by one.

* `Balancer.performAll`: operations with the answers to them.
* `Setup.turn_performs`: what one turn asks for, and `Client.execute_performs`: a whole call.
* `Session.Call.runAll_performs`: what a session of calls asks for.
-/

namespace Failover

/-! ### Operations -/

namespace Balancer

/-- Something that a balancer is asked for. -/
inductive Op where
  | choose (service : String)
  | executeOn (service : String) (target : Instance) (request : Request)
deriving DecidableEq

/-- An operation with the answer to it. -/
inductive Exchange where
  | chose (service : String) (choice : Option Instance)
  | executed (service : String) (target : Instance) (request : Request)
      (reply : Except Failure Response)

/-- What was asked for. -/
def Exchange.op : Exchange → Op
  | .chose service _ => .choose service
  | .executed service i r _ => .executeOn service i r

/-- The instance that was offered, where one was asked for. -/
def Exchange.choice? : Exchange → Option (Option Instance)
  | .chose _ choice => some choice
  | .executed .. => none

variable {σ : Type} {B : Balancer σ} {b : σ} {as bs ops : List Op} {op : Op}

/-- Performs an operation: the answer to it, and the state that it leaves. -/
def perform (B : Balancer σ) (b : σ) : Op → Exchange × σ
  | .choose service => (.chose service (B.choose service b).1, (B.choose service b).2)
  | .executeOn service i r =>
    (.executed service i r (B.executeOn service i r b).1, (B.executeOn service i r b).2)

/-- Performs operations one after another. -/
def performAll (B : Balancer σ) (b : σ) : List Op → List Exchange × σ
  | [] => ([], b)
  | op :: ops =>
    ((B.perform b op).1 :: (performAll B (B.perform b op).2 ops).1,
      (performAll B (B.perform b op).2 ops).2)

/-- Operations go on from where those before have left the balancer. -/
theorem performAll_append :
    B.performAll b (as ++ bs) =
      ((B.performAll b as).1 ++ (B.performAll (B.performAll b as).2 bs).1,
        (B.performAll (B.performAll b as).2 bs).2) := by
  induction as generalizing b with
  | nil => rfl
  | cons op as ih => rw [List.cons_append, performAll, ih, performAll, List.cons_append]

/-- One more operation at the end. -/
theorem performAll_concat :
    B.performAll b (ops ++ [op]) =
      ((B.performAll b ops).1 ++ [(B.perform (B.performAll b ops).2 op).1],
        (B.perform (B.performAll b ops).2 op).2) :=
  performAll_append

end Balancer

/-! ### The operations in a journal -/

open Balancer (Op Exchange)

namespace Journal

/-- What an entry tells that the balancer was asked for. -/
def opOf? : Entry → Option Op
  | .chose service _ => some (.choose service)
  | .attempted service i r => some (.executeOn service i r)
  | _ => none

/-- What the balancer was asked for, first to last. -/
def operations (j : Journal) : List Op := j.toList.filterMap opOf?

end Journal

/-- Entries that only tell ask nothing of the balancer. -/
theorem Tells.operations {es : List Entry} {events : List Event} (h : Tells es events) :
    es.filterMap Journal.opOf? = [] := by
  rw [List.filterMap_eq_nil_iff]
  intro e he
  have quiet := h.quiet e he
  cases e <;> first | rfl | cases quiet

theorem World.operations_addAll {σ : Type} {w : World σ} {es : List Entry} :
    (w.addAll es).journal.operations =
      w.journal.operations ++ es.filterMap Journal.opOf? := by
  rw [Journal.operations, World.toList_addAll, List.filterMap_append]
  rfl

namespace Setup

variable {σ : Type} {s : Setup σ} {p : Policy} {service : String} {raw : Request} {o : Outcome}
  {c c₁ : Context} {w w₁ w₂ w' : World σ} {i : Instance} {r : Request} {b : σ} {words : Words}
  {es : List Entry} {events : List Event} {limit : Nat}

/-! ### One call -/

/-- From one world to another the operations that were entered were put to the balancer, and its
choices were entered as it answered them. -/
def Performs (s : Setup σ) (w w' : World σ) : Prop :=
  ∃ ops, w'.journal.operations = w.journal.operations ++ ops ∧
    w'.balancer = (s.balancer.performAll w.balancer ops).2 ∧
    w'.journal.choices =
      w.journal.choices ++ (s.balancer.performAll w.balancer ops).1.filterMap Exchange.choice?

namespace Performs

theorem refl : s.Performs w w :=
  ⟨[], (List.append_nil _).symm, rfl, (List.append_nil _).symm⟩

theorem trans (h : s.Performs w w₁) (h' : s.Performs w₁ w₂) : s.Performs w w₂ := by
  obtain ⟨ops, operations, balancer, choices⟩ := h
  obtain ⟨ops', operations', balancer', choices'⟩ := h'
  rw [balancer] at balancer' choices'
  refine ⟨ops ++ ops', ?_, ?_, ?_⟩
  · rw [operations', operations, List.append_assoc]
  · rw [Balancer.performAll_append, balancer']
  · rw [Balancer.performAll_append, choices', choices, List.filterMap_append, List.append_assoc]

/-- What is noted down without the balancer leaves the operations as they are. -/
theorem noted (tells : Tells es events) :
    s.Performs w (({ w with words := words } : World σ).addAll es) := by
  refine ⟨[], ?_, rfl, ?_⟩
  · rw [World.operations_addAll, tells.operations]
  · rw [tells.journal_choices, Balancer.performAll, List.filterMap_nil, List.append_nil]

theorem addAll (h : s.Performs w w') (tells : Tells es events) : s.Performs w (w'.addAll es) := by
  have step : s.Performs w' (({ w' with words := w'.words } : World σ).addAll es) := noted tells
  exact h.trans step

theorem choose {choice : Option Instance}
    (answer : s.balancer.choose service w.balancer = (choice, b)) :
    s.Performs w (({ w with balancer := b } : World σ).addAll [.chose service choice]) := by
  refine ⟨[.choose service], World.operations_addAll, ?_, ?_⟩
  · exact (congrArg Prod.snd answer).symm
  · rw [World.choices_addAll, Balancer.performAll, Balancer.perform, answer]
    rfl

theorem executeOn {reply : Except Failure Response}
    (answer : s.balancer.executeOn service i r w.balancer = (reply, b)) :
    s.Performs w (({ w with balancer := b } : World σ).addAll [.attempted service i r]) := by
  refine ⟨[.executeOn service i r], World.operations_addAll, ?_, World.choices_addAll⟩
  exact (congrArg Prod.snd answer).symm

end Performs

/-- A selection leaves the balancer as its operations do. -/
theorem Target.performs (t : s.Target c w i c₁ w₁) : s.Performs w w₁ := by
  cases t with
  | kept bound => exact .refl
  | chosen unbound live choice =>
      have chosen := (Performs.choose choice).addAll (tells_selected (s := s) (c := c) (i := i))
      rwa [World.addAll_addAll, List.singleton_append] at chosen

/-- A turn asks for an instance at most, and for an attempt at most. -/
theorem turn_performs : s.Performs w (s.turn p raw c w).world := by
  have turn : s.TurnCase p raw c w (s.turn p raw c w) := turn_case
  generalize s.turn p raw c w = t at *
  cases turn with
  | fired unbound fired => exact .refl
  | empty unbound live choice =>
      have asked := (Performs.choose choice).addAll (Tells.nil.log (l := noInstanceLine c))
      rwa [World.addAll_addAll, List.singleton_append] at asked
  | unaddressable target bind => exact target.performs.addAll Tells.nil.log
  | attempted target bind answer reaction =>
      obtain ⟨words, es, events, tells, ht⟩ := reaction.tells
      rw [ht]
      exact (target.performs.trans (.executeOn answer)).trans (.noted tells)

/-- So do all turns of a call. -/
theorem turns_performs (run : s.turns p raw limit c w = some (o, w')) : s.Performs w w' := by
  induction limit generalizing c w with
  | zero => cases run
  | succ limit ih =>
      rw [turns] at run
      have step : s.Performs w (s.turn p raw c w).world := turn_performs
      generalize s.turn p raw c w = t at *
      rcases t with ⟨c', w₁⟩ | ⟨o', w₁⟩
      · exact step.trans (ih run)
      · cases run
        exact step

theorem chooseAndSend_performs : s.Performs w (s.chooseAndSend w service raw).2 := by
  unfold chooseAndSend
  rcases choice : s.balancer.choose service w.balancer with ⟨_ | i, b₁⟩
  · rw [choose_eq choice]
    exact .choose choice
  · rw [choose_eq choice]
    dsimp only
    have chosen := Performs.choose choice
    generalize ({ w with balancer := b₁ } : World σ).addAll [.chose service (some i)] = w₁
      at chosen
    cases s.pipeline.bind raw i 1 with
    | error f => exact chosen.addAll Tells.nil.log
    | ok r =>
        dsimp only
        rcases answer : s.balancer.executeOn service i r w₁.balancer with ⟨reply, b₂⟩
        rw [executeOn_eq answer]
        cases reply <;> exact chosen.trans (.executeOn answer)

section

variable (default : s.balancer.combined = none)
include default

/-- Without a way of its own to make it, a balancer is asked for what a combined call consists
of. -/
theorem executeOnce_performs : s.Performs w (s.executeOnce w service raw).2 := by
  have announced : s.Performs w (w.addAll [.combined service]) :=
    ⟨[], World.operations_addAll, rfl, World.choices_addAll⟩
  unfold executeOnce
  rw [World.add_eq, default]
  exact announced.trans chooseAndSend_performs

/-- So does a plain call. -/
theorem executePlain_performs : s.Performs w (s.executePlain w service raw).2 := by
  have made : s.Performs w (s.executeOnce w service raw).2 := executeOnce_performs default
  unfold executePlain
  rcases h : s.executeOnce w service raw with ⟨e | response, w₁⟩
  · rw [h] at made
    exact made
  · rw [h] at made
    dsimp only
    rw [emit_eq, World.log_addAll]
    exact made.addAll Tells.emission.log

/-- So does a call that is made once under a policy. -/
theorem bypass_performs : s.Performs w (s.bypass p service raw w).2 := by
  unfold bypass
  dsimp only
  rw [emit_eq, World.log_addAll, World.ask, World.addAll_addAll]
  generalize hes : List.map Entry.asked _ ++ _ :: _ = es
  have tells : Tells es [.bypassed service raw.method.name
      (if p.enabled then BypassReason.unsafeMethod else .retryDisabled)] := by
    rw [← hes]
    exact Tells.asked.append Tells.emission.log
  exact (Performs.refl.addAll tells).trans (executeOnce_performs default)

end

end Setup

/-- **What a call asks of its balancer is in its journal.** -/
theorem Client.execute_performs {σ : Type} {client : Client} {s : Setup σ} {service : String}
    {raw : Request} {o : Outcome} {w w' : World σ} (default : s.balancer.combined = none)
    (run : client.execute s service raw w = some (o, w')) : s.Performs w w' := by
  cases client with
  | plain =>
      have made : s.Performs w (s.executePlain w service raw).2 :=
        Setup.executePlain_performs default
      rwa [Option.some.inj run] at made
  | retrying registry =>
      rw [execute] at run
      cases fired : s.cancelled w with
      | true =>
          rw [Setup.executeRetrying, if_pos fired] at run
          cases run
          exact .refl
      | false =>
          have asked (answer : Bool) : s.Performs w (w.ask [.admits raw.method answer]) :=
            Setup.Performs.refl.addAll Tells.asked
          cases admits : (registry.policyFor service).admits raw.method with
          | true =>
              rw [Setup.executeRetrying_of_admits fired admits] at run
              exact (asked true).trans (Setup.turns_performs run)
          | false =>
              rw [Setup.executeRetrying_of_refuses fired admits] at run
              have made : s.Performs (w.ask [.admits raw.method false])
                  (s.bypass (registry.policyFor service) service raw
                    (w.ask [.admits raw.method false])).2 := Setup.bypass_performs default
              rw [Option.some.inj run] at made
              exact (asked false).trans made

/-! ### A session of calls -/

namespace Session.Call

variable {σ : Type}

/-- **A session leaves its balancer as the operations in its journals do.**  They are put to it in
the order of the calls, and it offers the instances that were entered. -/
theorem runAll_performs {B : Balancer σ} {calls : List (Call σ)} {session session' : Session σ}
    {reports : List Report} (default : B.combined = none)
    (shared : ∀ c ∈ calls, c.setup.balancer = B)
    (run : session.runAll calls = some (reports, session')) :
    session'.balancer =
        (B.performAll session.balancer (reports.flatMap (·.journal.operations))).2 ∧
      reports.flatMap (·.journal.choices) =
        (B.performAll session.balancer
          (reports.flatMap (·.journal.operations))).1.filterMap Exchange.choice? := by
  induction calls generalizing session reports with
  | nil =>
      cases run
      exact ⟨rfl, rfl⟩
  | cons c cs ih =>
      obtain ⟨o, w, later, next, hw, hnext, hlater, rfl⟩ := runAll_cons run
      obtain ⟨balancer, choices⟩ := ih (fun c hc => shared c (List.mem_cons_of_mem _ hc)) hlater
      have hB : c.setup.balancer = B := shared c List.mem_cons_self
      obtain ⟨ops, operations, moved, chosen⟩ := Client.execute_performs (hB ▸ default) hw
      rw [hB] at moved chosen
      rw [hnext, moved] at balancer choices
      have operations : w.journal.operations = ops := operations
      have chosen : w.journal.choices = _ := chosen
      rw [List.flatMap_cons, List.flatMap_cons, operations, chosen, Balancer.performAll_append]
      refine ⟨balancer, ?_⟩
      rw [choices, List.filterMap_append]
      rfl

end Session.Call

end Failover
